import Studio.Json.Persisted
import Studio.Proofs.Json.Text

/-! Values are read back as they were written. `ReadsBack` says so of a reader and a
value, for either layout and whatever may follow a value in a text; it passes from the
items of an array to the array, and from the members of an object to the record of
them. -/

namespace Studio.Json

variable {l : Layout} {depth : Nat}

/-! ### Space -/

theorem skipSpace_cons {c : Char} (h : isSpace c = false) (cs : List Char) :
    skipSpace (c :: cs) = c :: cs := by
  rw [skipSpace, List.dropWhile_cons_of_neg (by rw [h]; decide)]

theorem skipSpace_line (l : Layout) (depth : Nat) (cs : List Char) :
    skipSpace (l.line depth ++ cs) = skipSpace cs := by
  refine List.dropWhile_append_of_pos fun c hc => ?_
  cases l with
  | compact => cases hc
  | indented =>
    rcases List.mem_cons.1 hc with rfl | hc
    · rfl
    · rw [List.eq_of_mem_replicate hc]
      rfl

theorem passColon_colon (l : Layout) (cs : List Char) :
    ∃ cs', passColon (l.colon ++ cs) = .ok cs' ∧ skipSpace cs' = skipSpace cs := by
  cases l with
  | compact => exact ⟨cs, rfl, rfl⟩
  | indented => exact ⟨' ' :: cs, rfl, rfl⟩

/-! ### What follows a value -/

/-- The text ends here, or goes on as it may after a value. A numeral would be read past
its end if a digit followed. -/
def Ended (rest : List Char) : Prop :=
  ∀ c ∈ rest.head?, isSpace c = true ∨ c ∈ [',', ']', '}']

/-- What follows the last item or member: a bracket on a line of its own. -/
def closing (l : Layout) (depth : Nat) (bracket : Char) (rest : List Char) : List Char :=
  l.line depth ++ bracket :: rest

theorem ended_closing {bracket : Char} (h : bracket ∈ [']', '}']) (l : Layout) (depth : Nat)
    (rest : List Char) : Ended (closing l depth bracket rest) := by
  cases l with
  | compact =>
    rintro c ⟨⟩
    exact .inr (.tail _ h)
  | indented =>
    rintro c ⟨⟩
    exact .inl rfl

/-- So a text goes on after each item that is written, and likewise after each member. -/
theorem ended_writeItems (l : Layout) (depth : Nat) (vs : List Value) (rest : List Char) :
    Ended (writeItems l (depth + 1) vs ++ closing l depth ']' rest) := by
  cases vs with
  | nil => exact ended_closing (.head _) l depth rest
  | cons v vs =>
    rintro c ⟨⟩
    exact .inr (.head _)

theorem ended_writeMembers (l : Layout) (depth : Nat) (ms : List (String × Value))
    (rest : List Char) : Ended (writeMembers l (depth + 1) ms ++ closing l depth '}' rest) := by
  cases ms with
  | nil => exact ended_closing (.tail _ (.head _)) l depth rest
  | cons m ms =>
    rintro c ⟨⟩
    exact .inr (.head _)

/-! ### Reading back -/

/-- The reader takes every written form of the value off the front of a text, provided
that `height` more brackets may be opened. -/
structure ReadsBack (height : Nat) (reader : Reader) (v : Value) : Prop where
  opens : ∀ l depth, ∃ c cs, v.write l depth = c :: cs ∧ isSpace c = false ∧ c ≠ ']'
  reads : ∀ l depth room cs rest, height ≤ room → Ended rest →
    skipSpace cs = v.write l depth ++ rest → reader room cs = .ok (v, rest)

namespace ReadsBack

variable {height : Nat} {reader : Reader} {v : Value}

theorem skipSpace_write (h : ReadsBack height reader v) (l : Layout) (depth : Nat)
    (rest : List Char) : skipSpace (v.write l depth ++ rest) = v.write l depth ++ rest := by
  obtain ⟨c, cs, hw, hc, -⟩ := h.opens l depth
  rw [hw, List.cons_append, skipSpace_cons hc]

theorem length_pos (h : ReadsBack height reader v) (l : Layout) (depth : Nat) :
    0 < (v.write l depth).length := by
  obtain ⟨c, cs, hw, -⟩ := h.opens l depth
  rw [hw]
  exact Nat.succ_pos _

theorem mono (h : ReadsBack height reader v) {height' : Nat} (hle : height ≤ height') :
    ReadsBack height' reader v where
  opens := h.opens
  reads l depth room cs rest hroom := h.reads l depth room cs rest (Nat.le_trans hle hroom)

theorem text (s : String) : ReadsBack 0 textReader (.str s) where
  opens l depth := ⟨'"', _, by rw [Value.write, writeText]; rfl, rfl, by decide⟩
  reads l depth room cs rest _ _ hcs := by
    rw [Value.write, writeText_append] at hcs
    simp only [textReader, readText, hcs, string_write]
    rfl

theorem flag (b : Bool) : ReadsBack 0 flagReader (.bool b) where
  opens l depth := by
    cases b with
    | false => exact ⟨'f', _, by rw [Value.write], rfl, by decide⟩
    | true => exact ⟨'t', _, by rw [Value.write], rfl, by decide⟩
  reads l depth room cs rest _ _ hcs := by
    cases b with
    | false =>
      simp only [flagReader, hcs, Value.write, List.cons_append]
      rfl
    | true =>
      simp only [flagReader, hcs, Value.write, List.cons_append]
      rfl

/-- Where `null` might stand as well, a value is read back that is not written like it. -/
theorem optional (h : ReadsBack height reader v)
    (hnull : ∀ l depth, (v.write l depth).head? ≠ some 'n') :
    ReadsBack height (optionalReader reader) v where
  opens := h.opens
  reads l depth room cs rest hroom hended hcs := by
    obtain ⟨c, after, hw, -⟩ := h.opens l depth
    have hfirst : c ≠ 'n' := by
      rintro rfl
      exact hnull l depth (by rw [hw]; rfl)
    unfold optionalReader
    split
    · next heq =>
      rw [hcs, hw, List.cons_append] at heq
      exact absurd (List.cons.inj heq).1 hfirst
    · rw [hcs]
      exact h.reads l depth room _ rest hroom hended (h.skipSpace_write l depth rest)

end ReadsBack

/-! ### Arrays -/

section Arrays

variable {cs rest : List Char} {c : Char}

theorem nextItem_close (first : Bool) (h : skipSpace cs = ']' :: rest) :
    nextItem first cs = .ok (false, ']' :: rest) := by
  simp only [nextItem, h]

theorem nextItem_first (h : skipSpace cs = c :: rest) (hc : c ≠ ']') :
    nextItem true cs = .ok (true, c :: rest) := by
  unfold nextItem
  rw [h]
  split <;> simp_all

theorem nextItem_comma (h : skipSpace cs = c :: rest) (hc : c ≠ ']') :
    nextItem false (',' :: cs) = .ok (true, c :: rest) := by
  have hs : skipSpace (',' :: cs) = ',' :: cs := rfl
  unfold nextItem
  rw [hs]
  split
  · next he => cases he
  · next he => cases he
  · next he =>
    cases he
    rw [if_neg nofun, if_pos rfl, h]
    split <;> simp_all

variable {item : List Char → Scan Value} {v : Value} {vs : List Value} {fuel : Nat} {first : Bool}

theorem items_close (h : skipSpace cs = ']' :: rest) :
    items item (fuel + 1) first cs = .ok ([], rest) := by
  rw [items, nextItem_close first h]
  rfl

variable {height room : Nat} {reader : Reader} {tail : List Char}

/-- An item on a line of its own, to which `nextItem` goes. -/
theorem items_item (hv : ReadsBack height reader v) (hroom : height ≤ room) (hended : Ended tail)
    (hnext : ∀ c after, skipSpace (l.line depth ++ (v.write l depth ++ tail)) = c :: after →
      c ≠ ']' → nextItem first cs = .ok (true, c :: after))
    (htail : items (reader room) fuel false tail = .ok (vs, rest)) :
    items (reader room) (fuel + 1) first cs = .ok (v :: vs, rest) := by
  obtain ⟨c, after, hw, -, hclose⟩ := hv.opens l depth
  have hskip : skipSpace (l.line depth ++ (v.write l depth ++ tail)) = c :: (after ++ tail) := by
    rw [skipSpace_line, hv.skipSpace_write, hw, List.cons_append]
  have hitem : reader room (c :: (after ++ tail)) = .ok (v, tail) := by
    rw [← List.cons_append, ← hw]
    exact hv.reads l depth room _ tail hroom hended (hv.skipSpace_write ..)
  simp only [items, hnext c _ hskip hclose, hitem, htail, bind, Except.bind, pure, Except.pure,
    if_true]

theorem items_write (h : ∀ v ∈ vs, ReadsBack height reader v) (hroom : height ≤ room)
    (l : Layout) (depth : Nat) (rest : List Char) (hfuel : vs.length < fuel) :
    items (reader room) fuel false (writeItems l (depth + 1) vs ++ closing l depth ']' rest) =
      .ok (vs, rest) := by
  induction vs generalizing fuel with
  | nil =>
    obtain ⟨fuel, rfl⟩ := Nat.exists_eq_add_of_lt hfuel
    exact items_close (skipSpace_line l depth _)
  | cons v vs ih =>
    obtain ⟨fuel, rfl⟩ := Nat.exists_eq_add_of_lt hfuel
    have htext : writeItems l (depth + 1) (v :: vs) ++ closing l depth ']' rest =
        ',' :: (l.line (depth + 1) ++ (v.write l (depth + 1) ++
          (writeItems l (depth + 1) vs ++ closing l depth ']' rest))) := by
      simp [writeItems]
    rw [htext]
    exact items_item (h v (.head _)) hroom (ended_writeItems _ _ _ _) (fun _ _ => nextItem_comma)
      (ih (fun w hm => h w (.tail _ hm)) (by simp only [List.length_cons]; omega))

theorem length_writeItems (l : Layout) (depth : Nat) (vs : List Value) :
    vs.length ≤ (writeItems l depth vs).length := by
  induction vs with
  | nil => exact Nat.zero_le _
  | cons v vs ih =>
    simp only [writeItems, List.length_cons, List.length_append]
    omega

/-- Everything after the opening bracket of an array. -/
theorem items_inside (h : ∀ w ∈ v :: vs, ReadsBack height reader w) (hroom : height ≤ room)
    (l : Layout) (depth : Nat) (rest : List Char) :
    let inside := l.line (depth + 1) ++ (v.write l (depth + 1) ++
      (writeItems l (depth + 1) vs ++ closing l depth ']' rest))
    items (reader room) (inside.length + 1) true inside = .ok (v :: vs, rest) := by
  intro inside
  have hv := h v (.head _)
  have hfuel : vs.length < inside.length := by
    have hcount := length_writeItems l (depth + 1) vs
    have hfirst := hv.length_pos l (depth + 1)
    simp only [inside, List.length_append]
    omega
  exact items_item hv hroom (ended_writeItems _ _ _ _) (fun _ _ => nextItem_first)
    (items_write (fun w hm => h w (.tail _ hm)) hroom l depth rest hfuel)

end Arrays

/-- A reader of items reads back an array of them. -/
theorem ReadsBack.list {height : Nat} {item : Reader} {vs : List Value}
    (h : ∀ v ∈ vs, ReadsBack height item v) :
    ReadsBack (height + 1) (listReader item) (.arr vs) where
  opens l depth := by
    cases vs with
    | nil => exact ⟨'[', _, by rw [Value.write], rfl, by decide⟩
    | cons v vs => exact ⟨'[', _, by rw [Value.write]; rfl, rfl, by decide⟩
  reads l depth room cs rest hroom _ hcs := by
    obtain ⟨room, rfl⟩ := Nat.exists_eq_add_of_lt hroom
    have hdeeper : height ≤ height + room := Nat.le_add_right ..
    cases vs with
    | nil =>
      rw [Value.write, List.cons_append, List.cons_append, List.nil_append] at hcs
      simp only [listReader, hcs, deeper]
      rw [items_close rfl]
      rfl
    | cons v vs =>
      have htext : skipSpace cs = '[' :: (l.line (depth + 1) ++ (v.write l (depth + 1) ++
          (writeItems l (depth + 1) vs ++ closing l depth ']' rest))) := by
        rw [hcs, Value.write]
        simp [closing]
      simp only [listReader, htext, deeper, items_inside h hdeeper l depth rest]
      rfl

theorem ReadsBack.list_map {α : Type} {height : Nat} {item : Reader} {f : α → Value}
    {as : List α} (h : ∀ a ∈ as, ReadsBack height item (f a)) :
    ReadsBack (height + 1) (listReader item) (.arr (as.map f)) := by
  refine .list fun v hv => ?_
  obtain ⟨a, ha, rfl⟩ := List.mem_map.1 hv
  exact h a ha

/-! ### Objects -/

section Objects

variable {cs rest : List Char}

theorem nextKey_close (first : Bool) (h : skipSpace cs = '}' :: rest) :
    nextKey first cs = .ok (false, '}' :: rest) := by
  simp only [nextKey, h]

theorem nextKey_first (h : skipSpace cs = '"' :: rest) : nextKey true cs = .ok (true, rest) := by
  simp only [nextKey, h]
  rfl

theorem nextKey_comma (h : skipSpace cs = '"' :: rest) :
    nextKey false (',' :: cs) = .ok (true, rest) := by
  have hs : skipSpace (',' :: cs) = ',' :: cs := rfl
  simp [nextKey, hs, h]

variable {height room : Nat} {slots : List Slot} {slot : Slot} {v : Value} {fuel : Nat}
  {first : Bool} {found ms : List (String × Value)} {tail : List Char}

theorem recordMembers_close (h : skipSpace cs = '}' :: rest) :
    recordMembers slots room (fuel + 1) first found cs = .ok (found, rest) := by
  rw [recordMembers, nextKey_close first h]
  rfl

/-- The text of a member. -/
def memberText (l : Layout) (depth : Nat) (m : String × Value) : List Char :=
  writeText m.1 ++ (l.colon ++ m.2.write l depth)

/-- A member on a line of its own, to whose key `nextKey` goes. -/
theorem recordMembers_member (hv : ReadsBack height slot.read v) (hroom : height ≤ room)
    (hended : Ended tail)
    (hslot : slots.find? (·.name = slot.name) = some slot)
    (hnew : found.any (·.1 = slot.name) = false)
    (hnext : ∀ after, skipSpace (l.line depth ++ (memberText l depth (slot.name, v) ++ tail)) =
      '"' :: after → nextKey first cs = .ok (true, after))
    (htail : recordMembers slots room fuel false (found ++ [(slot.name, v)]) tail =
      .ok (ms, rest)) :
    recordMembers slots room (fuel + 1) first found cs = .ok (ms, rest) := by
  let after := slot.name.toList.flatMap escapeChar ++ '"' :: (l.colon ++ (v.write l depth ++ tail))
  have hskip : skipSpace (l.line depth ++ (memberText l depth (slot.name, v) ++ tail)) =
      '"' :: after := by
    rw [skipSpace_line, memberText, List.append_assoc, List.append_assoc, writeText_append,
      skipSpace_cons rfl]
  obtain ⟨value, hcolon, hvalue⟩ := passColon_colon l (v.write l depth ++ tail)
  rw [hv.skipSpace_write] at hvalue
  have hread := hv.reads l depth room value tail hroom hended hvalue
  simp only [recordMembers, hnext after hskip, after, string_write, hslot, hnew, hcolon, hread,
    htail, bind, Except.bind, if_true, Bool.false_eq_true, if_false]

/-- Members each of which some slot of the record takes. -/
def Taken (height : Nat) (slots : List Slot) (ms : List (String × Value)) : Prop :=
  ∀ m ∈ ms, ∃ slot, slots.find? (·.name = m.1) = some slot ∧ ReadsBack height slot.read m.2

theorem Taken.past (h : Taken height slots ms) (hne : ∀ m ∈ ms, slot.name ≠ m.1) :
    Taken height (slot :: slots) ms := by
  intro m hm
  obtain ⟨taker, hfind, hread⟩ := h m hm
  exact ⟨taker, by rw [List.find?_cons_of_neg (by simpa using hne m hm), hfind], hread⟩

/-- The first of the members, with `tail` after it. -/
theorem recordMembers_taken {m : String × Value} (h : Taken height slots (m :: ms))
    (hroom : height ≤ room) (hended : Ended tail) (hnew : (found ++ m :: ms).map (·.1) |>.Nodup)
    (hnext : ∀ after, skipSpace (l.line depth ++ (memberText l depth m ++ tail)) =
      '"' :: after → nextKey first cs = .ok (true, after))
    (htail : recordMembers slots room fuel false (found ++ [m]) tail =
      .ok (found ++ [m] ++ ms, rest)) :
    recordMembers slots room (fuel + 1) first found cs = .ok (found ++ m :: ms, rest) := by
  obtain ⟨key, v⟩ := m
  obtain ⟨slot, hslot, hv⟩ := h (key, v) (.head _)
  obtain rfl : slot.name = key := by simpa using List.find?_some hslot
  have hfresh : found.any (·.1 = slot.name) = false := by
    rw [List.any_eq_false]
    intro m hm
    rw [decide_eq_true_iff]
    rintro heq
    rw [List.map_append, List.map_cons, List.nodup_append] at hnew
    exact hnew.2.2 _ (List.mem_map_of_mem hm) _ (.head _) heq
  rw [List.append_assoc] at htail
  exact recordMembers_member hv hroom hended hslot hfresh hnext htail

theorem recordMembers_write (h : Taken height slots ms) (hroom : height ≤ room)
    (hnew : (found ++ ms).map (·.1) |>.Nodup) (l : Layout) (depth : Nat) (rest : List Char)
    (hfuel : ms.length < fuel) :
    recordMembers slots room fuel false found
      (writeMembers l (depth + 1) ms ++ closing l depth '}' rest) = .ok (found ++ ms, rest) := by
  induction ms generalizing fuel found with
  | nil =>
    obtain ⟨fuel, rfl⟩ := Nat.exists_eq_add_of_lt hfuel
    rw [List.append_nil]
    exact recordMembers_close (skipSpace_line l depth _)
  | cons m ms ih =>
    obtain ⟨fuel, rfl⟩ := Nat.exists_eq_add_of_lt hfuel
    have htext : writeMembers l (depth + 1) (m :: ms) ++ closing l depth '}' rest =
        ',' :: (l.line (depth + 1) ++ (memberText l (depth + 1) m ++
          (writeMembers l (depth + 1) ms ++ closing l depth '}' rest))) := by
      simp [writeMembers, memberText]
    have hothers : ((found ++ [m] ++ ms).map (·.1)).Nodup := by
      rwa [List.append_assoc]
    rw [htext]
    exact recordMembers_taken h hroom (ended_writeMembers _ _ _ _) hnew (fun _ => nextKey_comma)
      (ih (fun m hm => h m (.tail _ hm)) hothers (by simp only [List.length_cons]; omega))

theorem length_writeMembers (l : Layout) (depth : Nat) (ms : List (String × Value)) :
    ms.length ≤ (writeMembers l depth ms).length := by
  induction ms with
  | nil => exact Nat.zero_le _
  | cons m ms ih =>
    simp only [writeMembers, List.length_cons, List.length_append]
    omega

/-- Everything after the opening bracket of an object. -/
theorem recordMembers_inside {m : String × Value} (h : Taken height slots (m :: ms))
    (hroom : height ≤ room) (hkeys : ((m :: ms).map (·.1)).Nodup) (l : Layout) (depth : Nat)
    (rest : List Char) :
    let inside := l.line (depth + 1) ++ (memberText l (depth + 1) m ++
      (writeMembers l (depth + 1) ms ++ closing l depth '}' rest))
    recordMembers slots room (inside.length + 1) true [] inside = .ok (m :: ms, rest) := by
  intro inside
  have hfuel : ms.length < inside.length := by
    have hcount := length_writeMembers l (depth + 1) ms
    simp only [inside, memberText, writeText, List.length_append, List.length_cons]
    omega
  exact recordMembers_taken h hroom (ended_writeMembers _ _ _ _) hkeys (fun _ => nextKey_first)
    (recordMembers_write (fun m hm => h m (.tail _ hm)) hroom hkeys l depth rest hfuel)

end Objects

/-- The members that the slots of a record give, one slot after the other: a slot that
may be omitted may give none. -/
inductive Gives (height : Nat) : List Slot → List (String × Value) → Prop
  | nil : Gives height [] []
  | member {slot : Slot} {slots : List Slot} {v : Value} {ms : List (String × Value)}
      (hread : ReadsBack height slot.read v) (hkeep : slot.keep v = [(slot.name, v)])
      (h : Gives height slots ms) : Gives height (slot :: slots) ((slot.name, v) :: ms)
  | omitted {slot : Slot} {slots : List Slot} {ms : List (String × Value)}
      (hfill : slot.fill? = some []) (h : Gives height slots ms) :
      Gives height (slot :: slots) ms

namespace Gives

variable {height : Nat} {slots : List Slot} {ms : List (String × Value)}

/-- The keys are names of slots, in the same order. -/
theorem keys_sublist (h : Gives height slots ms) :
    (ms.map (·.1)).Sublist (slots.map Slot.name) := by
  induction h with
  | nil => exact .slnil
  | member _ _ _ ih => exact ih.cons_cons _
  | omitted _ _ ih => exact ih.cons _

theorem ne_key (h : Gives height slots ms) {name : String} (hname : name ∉ slots.map Slot.name)
    {m : String × Value} (hm : m ∈ ms) : name ≠ m.1 := fun heq =>
  hname (heq ▸ h.keys_sublist.subset (List.mem_map_of_mem hm))

theorem taken (h : Gives height slots ms) (hnames : (slots.map Slot.name).Nodup) :
    Taken height slots ms := by
  induction h with
  | nil => exact fun _ hm => nomatch hm
  | @member slot slots v ms hread _ h ih =>
    obtain ⟨hother, hnames⟩ := List.nodup_cons.1 hnames
    intro m hm
    rcases List.mem_cons.1 hm with rfl | hm
    · exact ⟨slot, List.find?_cons_of_pos (decide_eq_true rfl), hread⟩
    · exact (ih hnames).past (fun _ => h.ne_key hother) m hm
  | @omitted slot slots ms _ h ih =>
    obtain ⟨hother, hnames⟩ := List.nodup_cons.1 hnames
    exact (ih hnames).past fun _ => h.ne_key hother

/-- From the members the record is put together as it was. -/
theorem assemble_eq (h : Gives height slots ms) (hnames : (slots.map Slot.name).Nodup)
    {found : List (String × Value)}
    (hfound : ∀ name ∈ slots.map Slot.name,
      found.find? (·.1 = name) = ms.find? (·.1 = name)) :
    assemble slots found = .ok ms := by
  induction h with
  | nil => rfl
  | @member slot slots v ms _ hkeep h ih =>
    obtain ⟨hother, hnames⟩ := List.nodup_cons.1 hnames
    have hhere : found.find? (·.1 = slot.name) = some (slot.name, v) :=
      (hfound _ (.head _)).trans (List.find?_cons_of_pos (decide_eq_true rfl))
    have hothers : ∀ name ∈ slots.map Slot.name,
        found.find? (·.1 = name) = ms.find? (·.1 = name) := by
      intro name hname
      have hne : slot.name ≠ name := fun heq => hother (heq ▸ hname)
      rw [hfound _ (.tail _ hname), List.find?_cons_of_neg (by simpa using hne)]
    rw [assemble, hhere]
    simp only [hkeep, ih hnames hothers, pure, Except.pure, bind, Except.bind]
    rfl
  | @omitted slot slots ms hfill h ih =>
    obtain ⟨hother, hnames⟩ := List.nodup_cons.1 hnames
    have hnone : ms.find? (·.1 = slot.name) = none := by
      rw [List.find?_eq_none]
      intro m hm heq
      exact h.ne_key hother hm (of_decide_eq_true heq).symm
    have hhere : found.find? (·.1 = slot.name) = none := (hfound _ (.head _)).trans hnone
    rw [assemble, hhere, hfill]
    simp only [ih hnames fun name hname => hfound name (.tail _ hname), pure, Except.pure, bind,
      Except.bind]
    rfl

end Gives

/-- A reader of records reads back the members that its slots give. -/
theorem ReadsBack.record {height : Nat} {slots : List Slot} {ms : List (String × Value)}
    (title : String) (hnames : (slots.map Slot.name).Nodup) (h : Gives height slots ms) :
    ReadsBack (height + 1) (recordReader title slots) (.obj ms) where
  opens l depth := by
    cases ms with
    | nil => exact ⟨'{', _, by rw [Value.write], rfl, by decide⟩
    | cons m ms => exact ⟨'{', _, by rw [Value.write]; rfl, rfl, by decide⟩
  reads l depth room cs rest hroom _ hcs := by
    obtain ⟨room, rfl⟩ := Nat.exists_eq_add_of_lt hroom
    have hdeeper : height ≤ height + room := Nat.le_add_right ..
    have hassemble : assemble slots ms = .ok ms := h.assemble_eq hnames fun _ _ => rfl
    have htaken := h.taken hnames
    have hkeys : (ms.map (·.1)).Nodup := h.keys_sublist.nodup hnames
    cases ms with
    | nil =>
      rw [Value.write, List.cons_append, List.cons_append, List.nil_append] at hcs
      simp only [recordReader, hcs, deeper]
      rw [recordMembers_close rfl]
      simp only [hassemble]
    | cons m ms =>
      have htext : skipSpace cs = '{' :: (l.line (depth + 1) ++ (memberText l (depth + 1) m ++
          (writeMembers l (depth + 1) ms ++ closing l depth '}' rest))) := by
        rw [hcs, Value.write]
        simp [closing, memberText]
      have hmembers := recordMembers_inside htaken hdeeper hkeys l depth rest
      simp only [recordReader, htext, deeper, hmembers, hassemble]

/-! ### Documents -/

/-- An outcome of which something is known that only a success has. -/
theorem eq_ok_of_map_toOption {ε α β : Type} {x : Except ε α} {f : α → β} {b : β}
    (h : x.toOption.map f = some b) : ∃ a, x = .ok a ∧ f a = b := by
  cases x with
  | error e => cases h
  | ok a => exact ⟨a, rfl, Option.some.inj h⟩

theorem mapError_eq_ok_iff {ε ε' α : Type} {x : Except ε α} {f : ε → ε'} {a : α} :
    x.mapError f = .ok a ↔ x = .ok a := by
  cases x with
  | error e => exact iff_of_false nofun nofun
  | ok read => constructor <;> intro h <;> cases h <;> rfl

theorem map_eq_ok_iff {ε α β : Type} {x : Except ε α} {f : α → β} {b : β} :
    x.map f = .ok b ↔ ∃ a, x = .ok a ∧ b = f a := by
  cases x with
  | error e => exact iff_of_false nofun nofun
  | ok a =>
    constructor
    · intro h
      cases h
      exact ⟨a, rfl, rfl⟩
    · rintro ⟨_, ha, rfl⟩
      cases ha
      rfl

/-- An accepted text gives the element that stands for its value. -/
theorem read_eq_ok_iff {α : Type} [Persisted α] {text : String} {a : α} :
    (Json.read text : Except ReadError α) = .ok a ↔
      ∃ v, (Persisted.schema α).read text = .ok v ∧ a = Persisted.ofValue v :=
  map_eq_ok_iff

/-- Elements each of which can be told from its value can be told from their values. -/
theorem map_ofValue_toValue {α : Type} [Persisted α]
    (h : ∀ a : α, Persisted.ofValue (Persisted.toValue a) = a) (as : List α) :
    (as.map Persisted.toValue).map (Persisted.ofValue : Value → α) = as := by
  rw [List.map_map]
  exact List.map_id'' h as

/-- An element whose value is read back is read from either written form. -/
theorem read_write {α : Type} [Persisted α] {height : Nat} {a : α} (l : Layout)
    (h : ReadsBack height (Persisted.schema α).reader (Persisted.toValue a))
    (hheight : height ≤ maxDepth) :
    Json.read (Json.write l a) = .ok (Persisted.ofValue (Persisted.toValue a) : α) := by
  have htext : ((Persisted.toValue a).render l).toList = (Persisted.toValue a).write l 0 :=
    String.toList_ofList
  have hread : (Persisted.schema α).reader maxDepth ((Persisted.toValue a).write l 0) =
      .ok (Persisted.toValue a, []) :=
    h.reads l 0 maxDepth _ [] hheight nofun
      (by simpa only [List.append_nil] using h.skipSpace_write l 0 [])
  have hdocument : (Persisted.schema α).document ((Persisted.toValue a).write l 0) =
      .ok (Persisted.toValue a) := by
    simp only [Schema.document, hread]
    rfl
  rw [Json.read, Json.write, Schema.read, htext, hdocument]
  rfl

end Studio.Json
