/-
Module: Beamwalk.Proofs.Json.Lexemes
Purpose: Strings and integers that are written are scanned as what they were.
Main exports: Json.scanUnits?_writeChars, Json.joinUnits?_toNat, Numeral.ofInt,
  Numeral.scan?_writeInt, Numeral.reading_ofInt
-/
import Mathlib.Algebra.Ring.Int.Defs
import Mathlib.Data.List.Basic
import Beamwalk.Json.Node
import Beamwalk.Json.Value

namespace Beamwalk

namespace Json

/-! ### Strings -/

/-- A code unit in front of what the rest of a string is scanned to. -/
def consUnit (unit : Nat) (scanned : List Nat × List Char) : List Nat × List Char :=
  (unit :: scanned.1, scanned.2)

theorem scanUnits?_numeric {a b c d : Char} {unit : Nat} (h : hexQuad? a b c d = some unit)
    (rest : List Char) :
    scanUnits? ('\\' :: 'u' :: a :: b :: c :: d :: rest) = (scanUnits? rest).map (consUnit unit) := by
  rw [scanUnits?.eq_2, h]
  cases scanUnits? rest <;> rfl

theorem scanUnits?_letter {letter c : Char} (hletter : letter ≠ 'u')
    (h : escaped? letter = some c) (rest : List Char) :
    scanUnits? ('\\' :: letter :: rest) = (scanUnits? rest).map (consUnit c.toNat) := by
  rw [scanUnits?.eq_3 _ _ fun _ _ _ _ _ hu _ => hletter hu, h]
  cases scanUnits? rest <;> rfl

theorem scanUnits?_plain {c : Char} (hquote : c ≠ '"') (hslash : c ≠ '\\')
    (hcontrol : ¬ c.toNat < 0x20) (rest : List Char) :
    scanUnits? (c :: rest) = (scanUnits? rest).map (consUnit c.toNat) := by
  rw [scanUnits?.eq_4 _ _ hquote (fun _ _ _ _ _ h _ => hslash h) (fun _ _ h _ => hslash h)]
  simp only [hslash, hcontrol, decide_false, Bool.or_self, Bool.false_eq_true, if_false]
  cases scanUnits? rest <;> rfl

/-- The numeric escape of a control character spells its code point. -/
theorem hexQuad?_control {n : Nat} (h : n < 0x20) :
    hexQuad? '0' '0' (hexDigit (n / 16)) (hexDigit (n % 16)) = some n := by
  have hall : ∀ n < 0x20, hexQuad? '0' '0' (hexDigit (n / 16)) (hexDigit (n % 16)) = some n := by
    decide
  exact hall n h

/-- However a character is written, it is scanned to its code point. -/
theorem scanUnits?_writeChar (c : Char) (rest : List Char) :
    scanUnits? (writeChar c rest) = (scanUnits? rest).map (consUnit c.toNat) := by
  unfold writeChar
  by_cases hquote : c = '"'
  · subst hquote
    exact scanUnits?_letter (by decide) rfl rest
  by_cases hslash : c = '\\'
  · subst hslash
    exact scanUnits?_letter (by decide) rfl rest
  rw [if_neg hquote, if_neg hslash]
  -- The five letters for control characters, then the numeric escape.
  iterate 5
    split
    · next h =>
        subst h
        exact scanUnits?_letter (by decide) rfl rest
  split
  · next hcontrol => exact scanUnits?_numeric (hexQuad?_control hcontrol) rest
  · next hcontrol => exact scanUnits?_plain hquote hslash hcontrol rest

/-- A string is scanned up to its own closing quote. -/
theorem scanUnits?_writeChars (cs rest : List Char) :
    scanUnits? (writeChars cs rest) = some (cs.map Char.toNat, rest) := by
  induction cs with
  | nil => rfl
  | cons c cs ih =>
      rw [writeChars, scanUnits?_writeChar, ih]
      rfl

/-- A character is no half of a surrogate pair. -/
theorem not_surrogate_toNat (c : Char) :
    isHighSurrogate c.toNat = false ∧ isLowSurrogate c.toNat = false := by
  have hvalid : c.toNat < 0xd800 ∨ 0xdfff < c.toNat ∧ c.toNat < 0x110000 := c.valid
  simp only [isHighSurrogate, isLowSurrogate, Bool.and_eq_false_iff, decide_eq_false_iff_not]
  omega

/-- Code points join to the characters they belong to. -/
theorem joinUnits?_toNat (cs : List Char) : joinUnits? (cs.map Char.toNat) = some cs := by
  induction cs with
  | nil => rfl
  | cons c cs ih =>
      obtain ⟨hhigh, hlow⟩ := not_surrogate_toNat c
      cases cs with
      | nil => simp [joinUnits?, hhigh, hlow]
      | cons d cs =>
          rw [List.map_cons] at ih
          simp [joinUnits?, hhigh, hlow, ih]

end Json

theorem Node.textOfUnits_toNat (s : String) :
    Node.textOfUnits (s.toList.map Char.toNat) = some s := by
  simp [Node.textOfUnits, Json.joinUnits?_toNat]

/-! ### Integers -/

namespace Numeral

open Json (writeInt)

/-- The numeral of an integer: its digits, and a minus sign below zero. -/
def ofInt (i : Int) : Numeral := ⟨i < 0, Nat.toDigits 10 i.natAbs, none, none⟩

/-- What follows a numeral does not go on with it. -/
def Ended (rest : List Char) : Prop :=
  ∀ c, rest.head? = some c → c.isDigit = false ∧ c ≠ '.' ∧ c ≠ 'e' ∧ c ≠ 'E'

theorem isDigit_of_mem_toDigits {n : Nat} {c : Char} (h : c ∈ Nat.toDigits 10 n) :
    c.isDigit = true :=
  Nat.isDigit_of_mem_toDigits (by decide) (by decide) h

theorem toDigits_head (n : Nat) : ∃ d ds, Nat.toDigits 10 n = d :: ds ∧ d.isDigit = true := by
  obtain ⟨d, ds, hds⟩ := List.exists_cons_of_ne_nil (Nat.toDigits_ne_nil (n := n) (b := 10))
  exact ⟨d, ds, hds, isDigit_of_mem_toDigits (hds ▸ List.mem_cons_self)⟩

/-- The digits of a number: a zero alone, or digits that start with another one. -/
theorem toDigits_leading (n : Nat) :
    Nat.toDigits 10 n = ['0'] ∨ ∃ d ds, Nat.toDigits 10 n = d :: ds ∧ d ≠ '0' := by
  induction n using Nat.strongRecOn with
  | _ n ih =>
      rw [Nat.toDigits_eq_if (by decide)]
      split
      · next hsmall =>
          have hall : ∀ n < 10, n.digitChar = '0' ∨ n.digitChar ≠ '0' := by decide
          obtain h | h := hall n hsmall
          · exact .inl (by rw [h])
          · exact .inr ⟨_, _, rfl, h⟩
      · next hlarge =>
          right
          obtain h | ⟨d, ds, h, hd⟩ := ih (n / 10) (by omega)
          · -- A quotient of zero would make the number a single digit.
            have hzero : n / 10 = Nat.ofDigitChars 10 ['0'] 0 := by
              rw [← h, Nat.ofDigitChars_toDigits (by decide) (by decide)]
            have : n / 10 = 0 := hzero
            omega
          · exact ⟨d, ds ++ [(n % 10).digitChar], by rw [h]; rfl, hd⟩

theorem scanDigits_toDigits {rest : List Char} (hrest : Ended rest) (n : Nat) :
    scanDigits (Nat.toDigits 10 n ++ rest) = (Nat.toDigits 10 n, rest) := by
  have hdigits : ∀ c ∈ Nat.toDigits 10 n, c.isDigit = true := fun c => isDigit_of_mem_toDigits
  have hstop : rest.takeWhile Char.isDigit = [] ∧ rest.dropWhile Char.isDigit = rest := by
    cases rest with
    | nil => exact ⟨rfl, rfl⟩
    | cons c rest => simp [(hrest c rfl).1]
  rw [scanDigits, List.takeWhile_append_of_pos hdigits, List.dropWhile_append_of_pos hdigits,
    hstop.1, hstop.2, List.append_nil]

theorem scanWhole?_toDigits {rest : List Char} (hrest : Ended rest) (n : Nat) :
    scanWhole? (Nat.toDigits 10 n ++ rest) = some (Nat.toDigits 10 n, rest) := by
  obtain h | ⟨d, ds, h, hd⟩ := toDigits_leading n
  · rw [h]
    cases rest with
    | nil => rfl
    | cons c rest => simp [scanWhole?, (hrest c rfl).1]
  · have hscan := scanDigits_toDigits hrest n
    rw [h] at hscan ⊢
    rw [List.cons_append] at hscan ⊢
    rw [scanWhole?.eq_3 _ fun _ heq => hd (List.cons.inj heq).1, hscan]

theorem scanFraction?_ended {rest : List Char} (hrest : Ended rest) :
    scanFraction? rest = some (none, rest) :=
  scanFraction?.eq_2 _ fun _ h => (hrest '.' (by rw [h]; rfl)).2.1 rfl

theorem scanExponent?_ended {rest : List Char} (hrest : Ended rest) :
    scanExponent? rest = some (none, rest) := by
  cases rest with
  | nil => rfl
  | cons c rest => simp [scanExponent?, (hrest c rfl).2.2]

/-- Behind the sign an integer has its digits and nothing else. -/
theorem scanParts_toDigits {rest : List Char} (hrest : Ended rest) (n : Nat) (negative : Bool) :
    (do
      let (whole, cs) ← scanWhole? (Nat.toDigits 10 n ++ rest)
      let (fraction, cs) ← scanFraction? cs
      let (exponent, cs) ← scanExponent? cs
      some ((⟨negative, whole, fraction, exponent⟩ : Numeral), cs)) =
        some (⟨negative, Nat.toDigits 10 n, none, none⟩, rest) := by
  simp [scanWhole?_toDigits hrest, scanFraction?_ended hrest, scanExponent?_ended hrest]

/-- An integer is scanned as far as it was written. -/
theorem scan?_writeInt {rest : List Char} (hrest : Ended rest) (i : Int) :
    scan? (writeInt i rest) = some (ofInt i, rest) := by
  have hbody := scanParts_toDigits hrest i.natAbs
  unfold writeInt ofInt
  by_cases hneg : i < 0
  · rw [if_pos hneg, decide_eq_true hneg]
    exact hbody true
  · have hsign : ∀ tail, Nat.toDigits 10 i.natAbs ++ rest ≠ '-' :: tail := by
      intro tail h
      obtain ⟨d, ds, hds, hdigit⟩ := toDigits_head i.natAbs
      rw [hds, List.cons_append] at h
      rw [(List.cons.inj h).1] at hdigit
      exact absurd hdigit (by decide)
    rw [if_neg hneg, decide_eq_false hneg, ← hbody false]
    unfold scan?
    split
    next hcs =>
      split at hcs
      · next h => exact absurd h (hsign _)
      · cases hcs
        rfl

/-- An integer of 64 bits, signed or unsigned, is read as what it is. -/
theorem reading_ofInt {i : Int} (hlow : -(2 ^ 63 : Int) ≤ i) (hhigh : i < 2 ^ 64) :
    (ofInt i).reading = .integer i := by
  have hvalue : natOfDigits (Nat.toDigits 10 i.natAbs) = i.natAbs :=
    Nat.ofDigitChars_toDigits (by decide) (by decide)
  have hword : wordLimit = 2 ^ 64 := rfl
  have hhalf : Nat.pow 2 63 = 2 ^ 63 := rfl
  simp only [reading, ofInt, hvalue, hword, hhalf, decide_eq_true_eq]
  by_cases hneg : i < 0
  · rw [if_pos hneg, if_pos (by omega)]
    congr 1
    omega
  · rw [if_neg hneg, if_pos (by omega)]
    congr 1
    omega

end Numeral

end Beamwalk
