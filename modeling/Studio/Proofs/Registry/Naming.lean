import Mathlib.Data.List.Nodup
import Studio.Proofs.Composing.Accepted
import Studio.Proofs.Session.Export

/-! The names in a registry. Whatever is composed keeps them distinct and not blank, so
that looking up an entry's name finds that entry. A text that is imported is taken as it
lists them. -/

namespace Studio

open Composing

/-- Names that tell entries apart. -/
structure SoundNames (names : List String) : Prop where
  distinct : names.Nodup
  visible : ∀ name ∈ names, Text.isBlank name = false

theorem SoundNames.concat {names : List String} {name : String} (h : SoundNames names)
    (visible : Text.isBlank name = false) (fresh : name ∉ names) :
    SoundNames (names ++ [name]) where
  distinct := by
    rw [← List.concat_eq_append, List.nodup_concat]
    exact ⟨fresh, h.distinct⟩
  visible := List.forall_mem_append.2 ⟨h.visible, List.forall_mem_singleton.2 visible⟩

namespace Registry

variable {α : Type} [Named α]

def Sound (r : Registry α) : Prop := SoundNames r.names

theorem sound_empty : (⟨[]⟩ : Registry α).Sound := ⟨.nil, List.forall_mem_nil _⟩

theorem Sound.concat {r : Registry α} {a : α} (h : r.Sound)
    (visible : Text.isBlank (Named.name a) = false) (fresh : Named.name a ∉ r.names) :
    (⟨r.entries ++ [a]⟩ : Registry α).Sound := by
  rw [Sound, names, List.map_append]
  exact SoundNames.concat h visible fresh

/-- Distinct names find their own entries. -/
theorem get?_of_mem {r : Registry α} (h : r.names.Nodup) {a : α} (ha : a ∈ r.entries) :
    r.get? (Named.name a) = some a := by
  have hlisted : Named.name a ∈ r.names := List.mem_map_of_mem ha
  obtain ⟨b, hb⟩ := Option.isSome_iff_exists.1 ((r.contains_iff (Named.name a)).2 hlisted)
  have hname : Named.name b = Named.name a := by simpa using List.find?_some hb
  rw [hb, List.inj_on_of_nodup_map h (List.mem_of_find?_eq_some hb) ha hname]

end Registry

/-! ### Libraries -/

namespace Library

/-- The names of each collection are sound. -/
structure Sound (l : Library) : Prop where
  nodes : ∀ role, (l.nodes role).Sound
  excerpts : ∀ genre, (l.excerpts genre).Sound

theorem sound_empty {name : String} {l : Library} (h : Library.empty name = .ok l) : l.Sound := by
  rw [eq_of_empty h]
  exact ⟨fun role => by cases role <;> exact Registry.sound_empty,
    fun genre => by cases genre <;> exact Registry.sound_empty⟩

theorem Sound.grow {l l' : Library} (h : l.Sound) (hgrown : l.Grown l') : l'.Sound where
  nodes role := by
    rcases hgrown.nodes_eq role with hr | ⟨node, visible, fresh, -, hr⟩
    · rw [hr]
      exact h.nodes role
    · rw [hr]
      exact (h.nodes role).concat visible fresh
  excerpts genre := by
    rcases hgrown.excerpts_eq genre with hg | ⟨e, visible, fresh, hg⟩
    · rw [hg]
      exact h.excerpts genre
    · rw [hg]
      exact (h.excerpts genre).concat visible fresh

end Library

/-! ### Sessions -/

namespace Session

/-- The names of each role are sound. -/
def Sound (s : Session) : Prop := ∀ role, (s.nodes role).Sound

theorem sound_empty {name : String} {s : Session} (h : Session.empty name = .ok s) :
    s.Sound := by
  rw [eq_of_empty h]
  intro role
  cases role <;> exact Registry.sound_empty

theorem Sound.grow {s s' : Session} (h : s.Sound) (hgrown : s.Grown s') : s'.Sound := by
  intro role
  rcases hgrown.nodes_eq role with hr | ⟨node, visible, fresh, -, hr⟩
  · rw [hr]
    exact h role
  · rw [hr]
    exact (h role).concat visible fresh

end Session

/-! ### What a text lists -/

open Json

/-- The names of the items that a record lists under the key. -/
def Json.Value.listed (v : Value) (key : String) : List String :=
  (v.get key).items.map fun item => (item.get "name").text

theorem Registry.sound_nodes (v : Value) (key : String) :
    (Registry.nodes (v.get key)).Sound ↔ SoundNames (v.listed key) := by
  rw [Registry.Sound, Registry.names, Registry.nodes, List.map_map]
  rfl

theorem Registry.sound_excerpts (v : Value) (key : String) :
    (Registry.excerpts (v.get key)).Sound ↔ SoundNames (v.listed key) := by
  rw [Registry.Sound, Registry.names, Registry.excerpts, List.map_map]
  rfl

theorem Registry.sound_under (session : String) (r : Registry Node) :
    (r.under session).Sound ↔ r.Sound := by
  rw [Registry.Sound, Registry.names, Registry.under, List.map_map]
  rfl

/-- The keys under which a text lists the collections of a library. -/
def Library.collections : List String :=
  ["instruments", "effects", "snippets", "templates", "demos"]

theorem Library.sound_ofValue (v : Value) :
    (Persisted.ofValue v : Library).Sound ↔
      ∀ key ∈ Library.collections, SoundNames (v.listed key) := by
  have hparts : (Persisted.ofValue v : Library).Sound ↔
      (Registry.nodes (v.get "instruments")).Sound ∧ (Registry.nodes (v.get "effects")).Sound ∧
        (Registry.excerpts (v.get "snippets")).Sound ∧
        (Registry.excerpts (v.get "templates")).Sound ∧
        (Registry.excerpts (v.get "demos")).Sound := by
    constructor
    · exact fun h => ⟨h.nodes .instrument, h.nodes .effect, h.excerpts .snippet,
        h.excerpts .template, h.excerpts .demo⟩
    · rintro ⟨hinstruments, heffects, hsnippets, htemplates, hdemos⟩
      exact ⟨fun | .instrument => hinstruments | .effect => heffects
                 | .track => Registry.sound_empty,
        fun | .snippet => hsnippets | .template => htemplates | .demo => hdemos⟩
  rw [hparts]
  simp only [Registry.sound_nodes, Registry.sound_excerpts, Library.collections,
    List.forall_mem_cons, List.not_mem_nil, false_implies, implies_true, and_true]

/-- The keys under which a text lists the collections of a session. -/
def Session.collections : List String := ["instruments", "effects", "tracks"]

theorem Session.sound_ofValue (v : Value) :
    (Persisted.ofValue v : Session).adoptNodes.Sound ↔
      ∀ key ∈ Session.collections, SoundNames (v.listed key) := by
  have hparts : (Persisted.ofValue v : Session).adoptNodes.Sound ↔
      (Registry.nodes (v.get "instruments")).Sound ∧ (Registry.nodes (v.get "effects")).Sound ∧
        (Registry.nodes (v.get "tracks")).Sound := by
    simp only [Session.Sound, Session.nodes_adoptNodes, Registry.sound_under]
    constructor
    · exact fun h => ⟨h .instrument, h .effect, h .track⟩
    · rintro ⟨hinstruments, heffects, htracks⟩
      exact fun | .instrument => hinstruments | .effect => heffects | .track => htracks
  rw [hparts]
  simp only [Registry.sound_nodes, Session.collections, List.forall_mem_cons, List.not_mem_nil,
    false_implies, implies_true, and_true]

/-- Composing keeps the names of libraries and sessions sound, at every step and in the
end, and a look-up finds each entry under a sound name. Import takes the names as they
are: they are sound exactly when the text lists sound names for every collection. -/
theorem composed_sound_imported_as_listed (name : String) (librarySteps : List (Step LibraryVerb))
    (sessionSteps : List (Step SessionVerb)) (text : String) :
    ((∀ entry ∈ (Library.compose name librarySteps).entries, entry.model.Sound) ∧
        ∀ l, (Library.compose name librarySteps).result = .ok l → l.Sound) ∧
      ((∀ entry ∈ (Session.compose name sessionSteps).entries, entry.model.Sound) ∧
        ∀ s, (Session.compose name sessionSteps).result = .ok s → s.Sound) ∧
      (∀ l, Library.ofText text = .ok l →
        ∃ v, (Persisted.schema Library).read text = .ok v ∧
          (l.Sound ↔ ∀ key ∈ Library.collections, SoundNames (v.listed key))) ∧
      (∀ s, Session.ofText text = .ok s →
        ∃ v, (Persisted.schema Session).read text = .ok v ∧
          (s.Sound ↔ ∀ key ∈ Session.collections, SoundNames (v.listed key))) ∧
      ∀ {α : Type} [Named α] (r : Registry α), r.Sound →
        ∀ a ∈ r.entries, r.get? (Named.name a) = some a := by
  refine ⟨?_, ?_, fun l h => ?_, fun s h => ?_, fun r h a ha => Registry.get?_of_mem h.distinct ha⟩
  · exact Library.compose_of_grown Library.Sound.grow (fun _ => Library.sound_empty) librarySteps
  · exact Session.compose_of_grown Session.Sound.grow (fun _ => Session.sound_empty) sessionSteps
  · obtain ⟨v, hv, rfl⟩ := Library.read_of_ofText h
    exact ⟨v, hv, Library.sound_ofValue v⟩
  · obtain ⟨v, hv, rfl⟩ := Session.read_of_ofText h
    exact ⟨v, hv, Session.sound_ofValue v⟩

/-- A rough script leaves sound names, by which its snippet is found, and so does a text
that lists one track. -/
theorem sound_rough_library_and_listed_track :
    (∃ l, (Library.compose "strings" Library.roughScript).result = .ok l ∧ l.Sound ∧
        l.snippets.get? "riff" = some ⟨"riff", "", "y"⟩) ∧
      ∃ s, Session.ofText Session.trackText = .ok s ∧ s.Sound := by
  have sound := composed_sound_imported_as_listed "strings" Library.roughScript [] Session.trackText
  constructor
  · have holds : (Library.compose "strings" Library.roughScript).result.toOption.map
        (·.snippets.entries) = some [⟨"riff", "", "y"⟩] := rfl
    obtain ⟨l, hl, hentries⟩ := eq_ok_of_map_toOption holds
    have hsound : l.Sound := sound.1.2 l hl
    have hfound := sound.2.2.2.2 l.snippets (hsound.excerpts .snippet)
    exact ⟨l, hl, hsound, hfound ⟨"riff", "", "y"⟩ (hentries ▸ List.mem_singleton.2 rfl)⟩
  · have lists : ((Persisted.schema Session).read Session.trackText).toOption.map
        (fun v => Session.collections.map v.listed) = some [[], [], ["main"]] := by
      decide +kernel
    obtain ⟨s, hs, -⟩ := Session.accepted_trackText
    obtain ⟨v, hv, hiff⟩ := sound.2.2.2.1 s hs
    rw [hv] at lists
    have hlisted : Session.collections.map v.listed = [[], [], ["main"]] := Option.some.inj lists
    have hall : ∀ names ∈ Session.collections.map v.listed, SoundNames names := by
      rw [hlisted]
      refine List.forall_mem_cons.2 ⟨⟨.nil, nofun⟩, List.forall_mem_cons.2 ⟨⟨.nil, nofun⟩, ?_⟩⟩
      exact List.forall_mem_singleton.2 ⟨by decide, by decide⟩
    exact ⟨s, hs, hiff.2 fun key hkey => hall _ (List.mem_map_of_mem hkey)⟩

/-! ### Repeated names -/

/-- A text that lists two snippets of one name. -/
def repeatedText : String :=
  "\x7b\"name\": \"L\", \"snippets\": [\x7b\"name\": \"a\", \"source\": \"x\"\x7d, "
    ++ "\x7b\"name\": \"a\", \"source\": \"y\"\x7d]\x7d"

/-- The text is accepted, and a look-up misses its second snippet. -/
theorem import_of_repeated_name :
    ∃ l, Library.ofText repeatedText = .ok l ∧ ¬ l.Sound ∧
      ∃ e ∈ l.snippets.entries, l.snippets.get? e.name ≠ some e := by
  have lists : (Library.ofText repeatedText).toOption.map (·.snippets.entries) =
      some [⟨"a", "", "x"⟩, ⟨"a", "", "y"⟩] := by
    decide +kernel
  obtain ⟨l, hl, hentries⟩ := eq_ok_of_map_toOption lists
  refine ⟨l, hl, fun hsound => ?_, ⟨"a", "", "y"⟩, ?_, ?_⟩
  · have hnames : l.snippets.names.Nodup := (hsound.excerpts .snippet).distinct
    rw [Registry.names, hentries] at hnames
    revert hnames
    decide
  · rw [hentries]
    exact .tail _ (.head _)
  · rw [Registry.get?, hentries]
    decide

end Studio
