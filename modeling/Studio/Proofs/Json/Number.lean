import Studio.Proofs.Json.RoundTrip

/-! Whole numbers are read back as they were written: their digits have no leading zero,
what follows a value is no part of a numeral, and digits whose number fits 64 bits are
taken up to the last. -/

namespace Studio.Json

/-! ### Decimal digits -/

theorem isDigit_of_mem_toDigits {n : Nat} {c : Char} (h : c ∈ Nat.toDigits 10 n) :
    isDigit c = true :=
  Nat.isDigit_of_mem_toDigits (by decide) (by decide) h

/-- The text of a number starts with a digit, so with neither a sign nor space. -/
theorem toDigits_first (n : Nat) : ∃ c cs, Nat.toDigits 10 n = c :: cs ∧ isDigit c = true := by
  cases hcs : Nat.toDigits 10 n with
  | nil => exact absurd hcs Nat.toDigits_ne_nil
  | cons c cs => exact ⟨c, cs, rfl, isDigit_of_mem_toDigits (hcs ▸ List.mem_cons_self)⟩

theorem digitChar_ne_zero : ∀ n < 10, 0 < n → n.digitChar ≠ '0' := by decide

/-- A positive number has no leading zero. -/
theorem toDigits_eq_cons {n : Nat} (h : 0 < n) :
    ∃ c cs, Nat.toDigits 10 n = c :: cs ∧ c ≠ '0' := by
  induction n using Nat.strongRecOn with
  | ind n ih =>
    by_cases hn : n < 10
    · exact ⟨n.digitChar, [], Nat.toDigits_of_lt_base hn, digitChar_ne_zero n hn h⟩
    · obtain ⟨c, cs, hcs, hc⟩ := ih (n / 10) (by omega) (by omega)
      refine ⟨c, cs ++ [(n % 10).digitChar], ?_, hc⟩
      rw [Nat.toDigits_of_base_le (by decide) (by omega), hcs, List.cons_append]

theorem le_ofDigitChars (cs : List Char) (n : Nat) : n ≤ Nat.ofDigitChars 10 cs n := by
  have hpow : 1 ≤ 10 ^ cs.length := Nat.one_le_pow _ _ (by decide)
  rw [Nat.ofDigitChars_eq_ofDigitChars_zero]
  exact Nat.le_trans (Nat.le_mul_of_pos_left n hpow) (Nat.le_add_right ..)

/-- Digits whose number is below the bound are all taken. -/
theorem absorb_digits {bound n : Nat} {cs : List Char} (h : Nat.ofDigitChars 10 cs n < bound) :
    absorb bound n (cs.map digitValue) = (Nat.ofDigitChars 10 cs n, []) := by
  induction cs generalizing n with
  | nil =>
    rw [Nat.ofDigitChars_nil]
    rfl
  | cons c cs ih =>
    have hnext : 10 * n + (c.toNat - '0'.toNat) = n * 10 + digitValue c := by
      rw [Nat.mul_comm, digitValue]
    rw [Nat.ofDigitChars_cons, hnext] at h ⊢
    have hlt : n * 10 + digitValue c < bound := Nat.lt_of_le_of_lt (le_ofDigitChars cs _) h
    rw [List.map_cons, absorb, if_pos hlt, ih h]

/-! ### Numerals -/

theorem isDigit_of_isSpace {c : Char} (h : isSpace c = true) : isDigit c = false := by
  simp only [isSpace, Bool.or_eq_true, beq_iff_eq] at h
  rcases h with ((rfl | rfl) | rfl) | rfl <;> rfl

/-- With this character no numeral goes on. -/
structure EndsNumeral (c : Char) : Prop where
  digit : isDigit c = false
  point : c ≠ '.'
  mark : c ≠ 'e' ∧ c ≠ 'E'

theorem Ended.endsNumeral {rest : List Char} (h : Ended rest) :
    ∀ c ∈ rest.head?, EndsNumeral c := by
  intro c hc
  rcases h c hc with hspace | hbracket
  · refine ⟨isDigit_of_isSpace hspace, ?_, ?_, ?_⟩ <;> rintro rfl <;> cases hspace
  · simp only [List.mem_cons, List.not_mem_nil, or_false] at hbracket
    rcases hbracket with rfl | rfl | rfl <;> exact ⟨rfl, by decide, by decide⟩

section Reading

variable {rest : List Char} {atEnd : Flaw} (hrest : ∀ c ∈ rest.head?, EndsNumeral c)

include hrest

theorem takeDigits_append {digits : List Char} (hdigits : ∀ c ∈ digits, isDigit c = true) :
    takeDigits (digits ++ rest) = (digits.map digitValue, rest) := by
  have hnone : rest.takeWhile isDigit = [] ∧ rest.dropWhile isDigit = rest := by
    cases rest with
    | nil => exact ⟨rfl, rfl⟩
    | cons c rest =>
      have hc : isDigit c = false := (hrest c rfl).digit
      exact ⟨List.takeWhile_cons_of_neg (by simp [hc]), List.dropWhile_cons_of_neg (by simp [hc])⟩
  rw [takeDigits, List.takeWhile_append_of_pos hdigits, List.dropWhile_append_of_pos hdigits,
    hnone.1, hnone.2, List.append_nil]

theorem wholeDigits_toDigits (n : Nat) :
    wholeDigits atEnd (Nat.toDigits 10 n ++ rest) =
      .ok ((Nat.toDigits 10 n).map digitValue, rest) := by
  rcases Nat.eq_zero_or_pos n with rfl | hn
  · cases rest with
    | nil => rfl
    | cons c rest =>
      have hc : isDigit c = false := (hrest c rfl).digit
      show (if isDigit c then _ else _) = _
      rw [hc]
      rfl
  · obtain ⟨c, cs, hcs, hc⟩ := toDigits_eq_cons hn
    have htake := takeDigits_append hrest fun _ => isDigit_of_mem_toDigits (n := n)
    rw [hcs] at htake ⊢
    rw [wholeDigits, someDigits, htake]
    · rfl
    · intro c' rest' heq
      exact hc (List.cons.inj heq).1

theorem fractionDigits_none : fractionDigits atEnd rest = .ok (none, rest) := by
  unfold fractionDigits
  split
  · exact absurd rfl (hrest '.' rfl).point
  · rfl

theorem exponentDigits_none : exponentDigits atEnd rest = .ok (none, rest) := by
  unfold exponentDigits
  split
  · exact absurd rfl (hrest 'e' rfl).mark.1
  · exact absurd rfl (hrest 'E' rfl).mark.2
  · rfl

theorem numeral_toDigits (n : Nat) :
    numeral atEnd (Nat.toDigits 10 n ++ rest) =
      .ok (⟨false, (Nat.toDigits 10 n).map digitValue, none, none⟩, rest) := by
  have hwhole : wholeDigits atEnd (Nat.toDigits 10 n ++ rest) = _ := wholeDigits_toDigits hrest n
  obtain ⟨c, cs, hcs, hc⟩ := toDigits_first n
  have hsign : c ≠ '-' := by
    rintro rfl
    cases hc
  rw [hcs, List.cons_append] at hwhole ⊢
  unfold numeral
  split
  next heq =>
    split at heq
    · next hminus => exact absurd (List.cons.inj hminus).1 hsign
    · cases heq
      simp only [hwhole, fractionDigits_none hrest, exponentDigits_none hrest, bind, Except.bind]
      rfl

/-- A whole number that fits 64 bits is read as the number that was written. -/
theorem number_toDigits {n : Nat} (h : n < Nat.pow 2 64) :
    number (Nat.toDigits 10 n ++ rest) = .ok (.int n, rest) := by
  have habsorb : absorb (Nat.pow 2 64) 0 ((Nat.toDigits 10 n).map digitValue) = (n, []) := by
    rw [absorb_digits (by rwa [Nat.ofDigitChars_ten_toDigits]), Nat.ofDigitChars_ten_toDigits]
  rw [number, numeral_toDigits hrest]
  simp only [Numeral.size, habsorb]
  rfl

end Reading

/-! ### Values -/

theorem ReadsBack.whole (title : String) {bound n : Nat} (h : n < bound)
    (hbound : bound ≤ Nat.pow 2 64) : ReadsBack 0 (wholeReader title bound) (.int n) where
  opens l depth := by
    obtain ⟨c, cs, hcs, hc⟩ := toDigits_first n
    refine ⟨c, cs, hcs, ?_, ?_⟩
    · refine Bool.eq_false_iff.2 fun hspace => ?_
      rw [isDigit_of_isSpace hspace] at hc
      cases hc
    · rintro rfl
      cases hc
  reads l depth room cs rest _ hended hcs := by
    have hwrite : Value.write l depth (.int n) = Nat.toDigits 10 n := rfl
    rw [hwrite] at hcs
    obtain ⟨c, cs', hfirst, hc⟩ := toDigits_first n
    have hnumber := number_toDigits hended.endsNumeral (Nat.lt_of_lt_of_le h hbound)
    rw [hfirst, List.cons_append] at hnumber hcs
    have hread : readNumber title cs = .ok (.int n, rest) := by
      rw [readNumber, hcs]
      simp only [hc, or_true, if_true, hnumber]
    have hrange : 0 ≤ (n : Int) ∧ (n : Int) < bound := ⟨Int.natCast_nonneg n, Int.ofNat_lt.2 h⟩
    simp only [wholeReader, hread]
    rw [if_pos hrange]

end Studio.Json
