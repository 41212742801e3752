import Studio.Json.Read
import Studio.Json.Write

/-! Strings are read back as they were written, whatever characters they hold: an
escape stands for the character it was written for, and every other character that is
written stands for itself. -/

namespace Studio.Json

/-! ### Escapes -/

theorem hexValue?_hexDigit : ∀ n < 16, hexValue? (hexDigit n) = some n := by decide

/-- The escape of a control character by its number. -/
theorem escape_hex {n : Nat} (h : n < 0x20) (cs : List Char) :
    escape ('u' :: '0' :: '0' :: hexDigit (n / 16) :: hexDigit (n % 16) :: cs) =
      .ok (.ofNat n, 5) := by
  have hzero : hexValue? '0' = some 0 := rfl
  have hhigh := hexValue?_hexDigit (n / 16) (by omega)
  have hlow := hexValue?_hexDigit (n % 16) (by omega)
  have hfour : fourHex ('0' :: '0' :: hexDigit (n / 16) :: hexDigit (n % 16) :: cs) = .ok n := by
    simp only [fourHex, hzero, hhigh, hlow]
    congr 1
    omega
  have hlowHalf : isLowSurrogate n = false := by
    simp only [isLowSurrogate, Bool.and_eq_false_iff, decide_eq_false_iff_not]
    omega
  have hhighHalf : isHighSurrogate n = false := by
    simp only [isHighSurrogate, Bool.and_eq_false_iff, decide_eq_false_iff_not]
    omega
  simp only [escape, hfour, hlowHalf, hhighHalf]
  rfl

/-- A character as it is written is read as that character. -/
theorem stringFrom_escapeChar (c : Char) (cs : List Char) :
    stringFrom 0 (escapeChar c ++ cs) =
      (stringFrom 0 cs).map fun (text, rest) => (c :: text, rest) := by
  unfold escapeChar
  split
  case h_8 c hquote hbackslash _ _ _ _ _ =>
    split
    · next h =>
      simp only [List.cons_append, List.nil_append, stringFrom, escape_hex h, Char.ofNat_toNat]
    · next h =>
      simp only [List.cons_append, List.nil_append]
      rw [stringFrom]
      · rw [if_neg h]
      · exact hquote
      · exact hbackslash
  all_goals rfl

theorem stringFrom_write (text rest : List Char) :
    stringFrom 0 (text.flatMap escapeChar ++ '"' :: rest) = .ok (text, rest) := by
  induction text with
  | nil => rfl
  | cons c cs ih =>
    rw [List.flatMap_cons, List.append_assoc, stringFrom_escapeChar, ih]
    rfl

theorem string_write (s : String) (rest : List Char) :
    string (s.toList.flatMap escapeChar ++ '"' :: rest) = .ok (s, rest) := by
  rw [string, stringFrom_write]
  exact congrArg (fun s => Except.ok (s, rest)) String.ofList_toList

theorem writeText_append (s : String) (rest : List Char) :
    writeText s ++ rest = '"' :: (s.toList.flatMap escapeChar ++ '"' :: rest) := by
  simp [writeText]

end Studio.Json
