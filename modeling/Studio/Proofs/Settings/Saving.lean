import Mathlib.Data.List.Induction
import Studio.Proofs.Json.RoundTrip
import Studio.Settings

/-! Settings over a history of changes and saves. The mark that they are saved is put by a
save, by a load and by hand, and every change takes it away. So where it stands, the
settings are still what they were when it was put last, and what was changed since is never
taken for saved. -/

namespace Studio.Settings

open Json

/-! ### Texts -/

theorem readsBack (s : Settings) :
    ReadsBack 1 (Persisted.schema Settings).reader (Persisted.toValue s) :=
  .record "Settings" (by decide)
    (.member (.text s.defaultLibrary) rfl (.member (.text s.newFileTemplate) rfl
      (.member (.flag s.reportPositions) rfl .nil)))

/-- What was saved is loaded as it was, with the mark that a load puts. -/
theorem ofText_text (s : Settings) : ofText s.text = .ok s.markSaved := by
  rw [ofText, text, read_write .indented s.readsBack (by decide)]
  rfl

/-! ### Changes -/

/-- A value for one of the fields. -/
inductive Change
  | defaultLibrary (name : String)
  | newFileTemplate (name : String)
  | reportPositions (report : Bool)
  deriving Repr, DecidableEq

namespace Change

/-- The settings with the value in its field, and otherwise as they are. -/
def put : Change → Settings → Settings
  | defaultLibrary name, s => { s with defaultLibrary := name }
  | newFileTemplate name, s => { s with newFileTemplate := name }
  | reportPositions report, s => { s with reportPositions := report }

def apply : Change → Settings → Settings
  | defaultLibrary name => setDefaultLibrary name
  | newFileTemplate name => setNewFileTemplate name
  | reportPositions report => setReportPositions report

theorem apply_eq (change : Change) (s : Settings) :
    change.apply s = if change.put s = s then s else (change.put s).needSave := by
  cases change with
  | defaultLibrary name =>
    rw [apply, setDefaultLibrary]
    refine if_congr ⟨?_, ?_⟩ rfl rfl
    · rintro rfl
      rfl
    · exact congrArg Settings.defaultLibrary
  | newFileTemplate name =>
    rw [apply, setNewFileTemplate]
    refine if_congr ⟨?_, ?_⟩ rfl rfl
    · rintro rfl
      rfl
    · exact congrArg Settings.newFileTemplate
  | reportPositions report =>
    rw [apply, setReportPositions]
    refine if_congr ⟨?_, ?_⟩ rfl rfl
    · rintro rfl
      rfl
    · exact congrArg Settings.reportPositions

end Change

/-! ### Histories -/

inductive Call
  | change (c : Change)
  | needSave
  | markSaved
  | save
  /-- Saves the settings and goes on with what is loaded from the text. -/
  | reload
  deriving Repr, DecidableEq

namespace Call

def perform : Call → Settings → Except Fault Settings
  | change c, s => .ok (c.apply s)
  | needSave, s => .ok s.needSave
  | markSaved, s => .ok s.markSaved
  | save, s => .ok s.save.2
  | reload, s => ofText s.save.1

/-- The call puts the mark. -/
def marks : Call → Bool
  | markSaved | save | reload => true
  | change _ | needSave => false

theorem perform_of_marks {call : Call} (h : call.marks = true) (s : Settings) :
    call.perform s = .ok s.markSaved := by
  cases call with
  | change c => cases h
  | needSave => cases h
  | markSaved => rfl
  | save => rfl
  | reload => exact ofText_text s

/-- Any other call leaves the settings as they are, or without the mark. -/
theorem perform_of_not_marks {call : Call} (h : call.marks = false) (s : Settings) :
    ∃ s', call.perform s = .ok s' ∧ (s' = s ∨ s'.saved = false) := by
  cases call with
  | change c =>
    refine ⟨c.apply s, rfl, ?_⟩
    rw [c.apply_eq]
    split
    · exact .inl rfl
    · exact .inr rfl
  | needSave => exact ⟨s.needSave, rfl, .inr rfl⟩
  | markSaved => cases h
  | save => cases h
  | reload => cases h

end Call

/-- Where a history starts: with new settings, or with those of a text. -/
inductive Origin
  | fresh
  | loaded (text : String)

def Origin.settings : Origin → Except Fault Settings
  | fresh => .ok {}
  | loaded text => ofText text

/-- What the calls make of the settings at the start. -/
def history (origin : Origin) (calls : List Call) : Except Fault Settings :=
  origin.settings >>= fun s => calls.foldlM (fun s call => call.perform s) s

theorem history_concat (origin : Origin) (calls : List Call) (call : Call) :
    history origin (calls ++ [call]) = history origin calls >>= call.perform := by
  cases h : origin.settings with
  | error f => simp only [history, h]; rfl
  | ok s =>
    simp only [history, h, List.foldlM_append, List.foldlM_cons, List.foldlM_nil, bind_pure]
    rfl

theorem history_concat_of_ok {origin : Origin} {calls : List Call} {s : Settings}
    (h : history origin calls = .ok s) (call : Call) :
    history origin (calls ++ [call]) = call.perform s := by
  rw [history_concat, h]
  rfl

/-- The settings as they were when the mark was put for the last time in a history. -/
inductive LastMarked (origin : Origin) : List Call → Settings → Prop
  | load {text : String} {calls : List Call} {s : Settings} (start : origin = .loaded text)
      (h : ofText text = .ok s) (later : ∀ c ∈ calls, c.marks = false) :
      LastMarked origin calls s
  | call {before after : List Call} {call : Call} {s : Settings} (marks : call.marks = true)
      (h : history origin (before ++ [call]) = .ok s)
      (later : ∀ c ∈ after, c.marks = false) :
      LastMarked origin (before ++ call :: after) s

namespace LastMarked

variable {origin : Origin} {calls : List Call} {s : Settings}

theorem concat (h : LastMarked origin calls s) {call : Call} (hcall : call.marks = false) :
    LastMarked origin (calls ++ [call]) s := by
  have hlater {after : List Call} (later : ∀ c ∈ after, c.marks = false) :
      ∀ c ∈ after ++ [call], c.marks = false :=
    List.forall_mem_append.2 ⟨later, List.forall_mem_singleton.2 hcall⟩
  cases h with
  | load start h later => exact .load start h (hlater later)
  | call marks h later =>
    rw [List.append_assoc, List.cons_append]
    exact .call marks h (hlater later)

theorem saved (h : LastMarked origin calls s) : s.saved = true := by
  cases h with
  | load start h later =>
    rw [ofText, mapError_eq_ok_iff, map_eq_ok_iff] at h
    obtain ⟨read, -, rfl⟩ := h
    rfl
  | @call before _ call _ marks h _ =>
    cases hbefore : history origin before with
    | error f =>
      rw [history_concat, hbefore] at h
      cases h
    | ok earlier =>
      rw [history_concat_of_ok hbefore, Call.perform_of_marks marks] at h
      cases h
      rfl

end LastMarked

theorem lastMarked_of_saved {origin : Origin} {start : Settings}
    (h : origin.settings = .ok start) (calls : List Call) :
    ∃ s, history origin calls = .ok s ∧ (s.saved = true → LastMarked origin calls s) := by
  induction calls using List.reverseRecOn with
  | nil =>
    refine ⟨start, by rw [history, h]; rfl, fun hsaved => ?_⟩
    cases origin with
    | fresh =>
      cases h
      cases hsaved
    | loaded text => exact .load rfl h (List.forall_mem_nil _)
  | append_singleton calls call ih =>
    obtain ⟨s, hs, hmarked⟩ := ih
    have hstep := history_concat_of_ok hs call
    cases hcall : call.marks with
    | true =>
      have hperform := hstep.trans (Call.perform_of_marks hcall s)
      exact ⟨_, hperform, fun _ => .call hcall hperform (List.forall_mem_nil _)⟩
    | false =>
      obtain ⟨s', hs', hsame | hunsaved⟩ := Call.perform_of_not_marks hcall s
      · subst hsame
        exact ⟨_, hstep.trans hs', fun hsaved => (hmarked hsaved).concat hcall⟩
      · refine ⟨s', hstep.trans hs', fun hsaved => ?_⟩
        rw [hunsaved] at hsaved
        cases hsaved

/-- In the course of a history, settings are taken for saved just while they are what they
were when the mark was put last, and to put the mark is all that a save or a load does to
them. A value that its field has already changes nothing, and any other is put and takes the
mark away. What was saved is loaded again, whatever it is. -/
theorem saved_iff_as_marked :
    (∀ (origin : Origin) start, origin.settings = .ok start → ∀ calls,
        ∃ s, history origin calls = .ok s ∧ (s.saved = true ↔ LastMarked origin calls s)) ∧
      (∀ call : Call, call.marks = true → ∀ s, call.perform s = .ok { s with saved := true }) ∧
      (∀ (change : Change) s, (change.put s = s → change.apply s = s) ∧
        (change.put s ≠ s → change.apply s = { change.put s with saved := false })) ∧
      ∀ s : Settings, ofText s.save.1 = .ok { s with saved := true } := by
  refine ⟨fun origin start h calls => ?_, fun call => Call.perform_of_marks,
    fun change s => ⟨fun hput => ?_, fun hput => ?_⟩, ofText_text⟩
  · obtain ⟨s, hs, hmarked⟩ := lastMarked_of_saved h calls
    exact ⟨s, hs, hmarked, LastMarked.saved⟩
  · rw [change.apply_eq, if_pos hput]
  · rw [change.apply_eq, if_neg hput]
    rfl

/-- A text that leaves two fields out. -/
def pianoText : String := "\x7b\"new-file-template\": \"piano\"\x7d"

/-- After a value is changed and saved, one is put that is there already. -/
def steadyCalls : List Call :=
  [.change (.reportPositions false), .reload, .change (.newFileTemplate "piano")]

theorem steady_calls_as_marked :
    (∃ start, (Origin.loaded pianoText).settings = .ok start) ∧
      history (.loaded pianoText) steadyCalls = .ok ⟨"core", "piano", false, true⟩ ∧
      LastMarked (.loaded pianoText) steadyCalls ⟨"core", "piano", false, true⟩ := by
  have loads : (ofText pianoText).toOption.map id = some ⟨"core", "piano", true, true⟩ := by
    decide +kernel
  obtain ⟨start, hstart, rfl⟩ := eq_ok_of_map_toOption loads
  have changed : history (.loaded pianoText) [.change (.reportPositions false)] =
      .ok ⟨"core", "piano", false, false⟩ := by
    rw [history, Origin.settings, hstart]
    rfl
  have reloaded := (history_concat_of_ok changed .reload).trans (Call.perform_of_marks rfl _)
  have ends : history (.loaded pianoText) steadyCalls = .ok ⟨"core", "piano", false, true⟩ :=
    history_concat_of_ok reloaded (.change (.newFileTemplate "piano"))
  obtain ⟨s, hs, hmarked⟩ := saved_iff_as_marked.1 (.loaded pianoText) _ hstart steadyCalls
  cases hs.symm.trans ends
  exact ⟨⟨_, hstart⟩, hs, hmarked.1 rfl⟩

end Studio.Settings
