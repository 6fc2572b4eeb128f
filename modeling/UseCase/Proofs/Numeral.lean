import Mathlib.Tactic.Common
import UseCase.Text.Numeral

/-!
# Numerals and their values

A number is written in many ways: a plus sign and zeros may stand in front of its decimal digits.
`Numeral` says in which ones, and the main statement `natural?_eq_some` is that exactly the numerals
of the numbers in range are read.
-/

namespace UseCase.Text

variable {c : Char} {d n acc bound : Nat} {cs : List Char}

/-- The ways in which a number is written. -/
inductive Numeral (n : Nat) : List Char → Prop
  | unsigned (zeros : Nat) : Numeral n (List.replicate zeros '0' ++ Nat.toDigits 10 n)
  | signed (zeros : Nat) : Numeral n ('+' :: (List.replicate zeros '0' ++ Nat.toDigits 10 n))

/-! ## Digits -/

/-- The digits are the characters of the numbers below ten. -/
lemma digit?_eq_some : digit? c = some d ↔ d < 10 ∧ c = Nat.digitChar d := by
  constructor
  · intro read
    unfold digit? at read
    split_ifs at read with inside
    cases read
    obtain ⟨low, high⟩ := Bool.and_eq_true_iff.mp inside
    have low : 48 ≤ c.toNat := of_decide_eq_true low
    have high : c.toNat ≤ 57 := of_decide_eq_true high
    have zero : '0'.toNat = 48 := rfl
    have small : c.toNat - '0'.toNat < 10 := by omega
    refine ⟨small, Char.toNat_inj.mp ?_⟩
    rw [Nat.toNat_digitChar_of_lt_ten small]
    omega
  · rintro ⟨small, rfl⟩
    have every : ∀ d < 10, digit? (Nat.digitChar d) = some d := by decide
    exact every d small

/-- Digits that follow digits go on from their number. -/
lemma digitsFrom?_append (acc : Nat) (front back : List Char) :
    digitsFrom? acc (front ++ back) =
      (digitsFrom? acc front).bind fun m => digitsFrom? m back := by
  induction front generalizing acc with
  | nil => rfl
  | cons c front ih =>
    rw [List.cons_append, digitsFrom?, digitsFrom?]
    cases digit? c with
    | none => rfl
    | some d => exact ih (10 * acc + d)

/-- Zeros in front of digits do not change the number. -/
lemma digitsFrom?_zeros (zeros : Nat) (cs : List Char) :
    digitsFrom? 0 (List.replicate zeros '0' ++ cs) = digitsFrom? 0 cs := by
  induction zeros with
  | zero => rfl
  | succ zeros ih => exact ih

/-- The decimal digits of a number are read as this number. -/
lemma digitsFrom?_toDigits (n : Nat) : digitsFrom? 0 (Nat.toDigits 10 n) = some n := by
  have last : ∀ {acc d}, d < 10 → digitsFrom? acc [Nat.digitChar d] = some (10 * acc + d) := by
    intro acc d small
    rw [digitsFrom?, digit?_eq_some.mpr ⟨small, rfl⟩]
    rfl
  induction n using Nat.strongRecOn with
  | ind n ih =>
    rw [Nat.toDigits_eq_if (by decide)]
    split_ifs with small
    · rw [last small, Nat.mul_zero, Nat.zero_add]
    · have less : n / 10 < n := by omega
      rw [digitsFrom?_append, ih _ less, Option.bind_some, last (Nat.mod_lt n (by decide)),
        Nat.div_add_mod]

/-- Digits that follow a number other than zero are the rest of the decimal digits. -/
lemma toDigits_append (read : digitsFrom? acc cs = some n) (positive : 0 < acc) :
    Nat.toDigits 10 acc ++ cs = Nat.toDigits 10 n := by
  induction cs generalizing acc with
  | nil =>
    cases read
    exact List.append_nil _
  | cons c cs ih =>
    rw [digitsFrom?] at read
    obtain ⟨d, digit, rest⟩ := Option.bind_eq_some_iff.mp read
    obtain ⟨small, rfl⟩ := digit?_eq_some.mp digit
    have joined := ih rest (by omega)
    rw [← Nat.toDigits_append_toDigits (by decide) positive small,
      Nat.toDigits_of_lt_base small] at joined
    rw [← joined, List.append_assoc]
    rfl

/-- Digits that are read as a number are its decimal digits behind zeros. -/
lemma exists_zeros (read : digitsFrom? 0 cs = some n) (full : cs ≠ []) :
    ∃ zeros, cs = List.replicate zeros '0' ++ Nat.toDigits 10 n := by
  induction cs with
  | nil => exact absurd rfl full
  | cons c cs ih =>
    rw [digitsFrom?] at read
    obtain ⟨d, digit, rest⟩ := Option.bind_eq_some_iff.mp read
    obtain ⟨small, rfl⟩ := digit?_eq_some.mp digit
    rw [Nat.mul_zero, Nat.zero_add] at rest
    rcases Nat.eq_zero_or_pos d with rfl | positive
    · -- A zero at the end is the number itself, and in front of other digits it does not count.
      cases cs with
      | nil =>
        cases rest
        exact ⟨0, rfl⟩
      | cons c' cs =>
        obtain ⟨zeros, same⟩ := ih rest (List.cons_ne_nil c' cs)
        refine ⟨zeros + 1, ?_⟩
        rw [same, List.replicate_succ]
        rfl
    · refine ⟨0, ?_⟩
      have joined := toDigits_append rest positive
      rwa [Nat.toDigits_of_lt_base small] at joined

/-- Exactly the decimal digits of a number, with zeros in front, are read as this number. -/
lemma digits?_eq_some :
    digits? cs = some n ↔ ∃ zeros, cs = List.replicate zeros '0' ++ Nat.toDigits 10 n := by
  have opened : ∀ {cs}, cs ≠ [] → digits? cs = digitsFrom? 0 cs := by
    intro cs full
    cases cs with
    | nil => exact absurd rfl full
    | cons c cs => rfl
  constructor
  · intro read
    have full : cs ≠ [] := by
      rintro rfl
      cases read
    exact exists_zeros (opened full ▸ read) full
  · rintro ⟨zeros, rfl⟩
    rw [opened (List.append_ne_nil_of_right_ne_nil _ Nat.toDigits_ne_nil), digitsFrom?_zeros,
      digitsFrom?_toDigits]

/-! ## Numbers in range -/

/-- A plus sign is no digit. -/
lemma digits?_plus (cs : List Char) : digits? ('+' :: cs) = none := rfl

/-- Exactly the numerals of the numbers in range are read. -/
lemma natural?_eq_some : natural? bound cs = some n ↔ n < bound ∧ Numeral n cs := by
  constructor
  · intro read
    unfold natural? at read
    obtain ⟨read, inside⟩ := Option.filter_eq_some_iff.mp read
    refine ⟨of_decide_eq_true inside, ?_⟩
    split at read
    · obtain ⟨zeros, rfl⟩ := digits?_eq_some.mp read
      exact .signed zeros
    · obtain ⟨zeros, rfl⟩ := digits?_eq_some.mp read
      exact .unsigned zeros
  · rintro ⟨inside, numeral⟩
    unfold natural?
    rw [Option.filter_eq_some_iff]
    refine ⟨?_, decide_eq_true inside⟩
    cases numeral with
    | signed zeros => exact digits?_eq_some.mpr ⟨zeros, rfl⟩
    | unsigned zeros =>
      have read : digits? (List.replicate zeros '0' ++ Nat.toDigits 10 n) = some n :=
        digits?_eq_some.mpr ⟨zeros, rfl⟩
      split
      · rename_i rest plus
        rw [plus, digits?_plus] at read
        cases read
      · exact read

end UseCase.Text
