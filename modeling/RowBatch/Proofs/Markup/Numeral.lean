import RowBatch.Markup.Scalar.Meaning

/-!
A number that is written in decimal is read as that number.
-/

namespace RowBatch
namespace Markup
namespace Meaning

theorem digit?_of_isDigit {c : Char} (h : c.isDigit = true) :
    digit? 10 c = some (c.toNat - '0'.toNat) := by
  have hless : c.toNat - '0'.toNat < 10 := by
    simp only [Char.isDigit, Bool.and_eq_true, decide_eq_true_eq, UInt32.le_iff_toNat_le] at h
    have hhigh : c.toNat ≤ 57 := h.2
    have hzero : '0'.toNat = 48 := rfl
    omega
  rw [digit?, if_pos h, if_pos hless]

theorem continueNumber_ofDigitChars {cs : List Char} (h : ∀ c ∈ cs, c.isDigit = true) (n : Nat) :
    continueNumber 10 n cs = some (Nat.ofDigitChars 10 cs n) := by
  induction cs generalizing n with
  | nil => rfl
  | cons c cs ih =>
    rw [continueNumber, digit?_of_isDigit (h c (by simp)), Option.bind_some,
      ih fun d hd => h d (List.mem_cons_of_mem c hd)]
    rfl

theorem exists_toDigits_cons {n : Nat} (h : 0 < n) :
    ∃ c cs, Nat.toDigits 10 n = c :: cs ∧ c ≠ '0' := by
  induction n using Nat.strongRecOn with
  | ind n ih =>
    rw [Nat.toDigits_eq_if (by decide)]
    by_cases hless : n < 10
    · have hdigit : ∀ d : Fin 10, 0 < d.val → Nat.digitChar d.val ≠ '0' := by decide
      exact ⟨_, [], if_pos hless, hdigit ⟨n, hless⟩ h⟩
    · obtain ⟨c, cs, hdigits, hc⟩ := ih (n / 10) (by omega) (by omega)
      exact ⟨c, _, by rw [if_neg hless, hdigits]; rfl, hc⟩

/-- The decimal digits of a number, as they are shown, have no needless zero and no mark. -/
theorem magnitude?_toDigits (n : Nat) : magnitude? (Nat.toDigits 10 n) = some n := by
  have hnumber : number? 10 (Nat.toDigits 10 n) = some n := by
    have hdigits : ∀ c ∈ Nat.toDigits 10 n, c.isDigit = true :=
      fun c hc => Nat.isDigit_of_mem_toDigits (by decide) (by decide) hc
    have hne : (Nat.toDigits 10 n).isEmpty = false := by simp
    simp [number?, hne, continueNumber_ofDigitChars hdigits]
  rcases Nat.eq_zero_or_pos n with rfl | hn
  · rfl
  · obtain ⟨c, cs, hdigits, hc⟩ := exists_toDigits_cons hn
    have hmarked : marked? (c :: cs) = none := by
      unfold marked?
      split <;> simp_all
    have hzero : hasNeedlessZero (c :: cs) = false := by
      unfold hasNeedlessZero
      split <;> simp_all
    rw [hdigits] at hnumber ⊢
    simp [magnitude?, decimal?, hmarked, hzero, hnumber]

theorem unsigned?_toDigits (n : Nat) : unsigned? (Nat.toDigits 10 n) = some n := by
  have hplus : ∀ rest, Nat.toDigits 10 n ≠ '+' :: rest := by
    intro rest h
    have hdigit := Nat.isDigit_of_mem_toDigits (b := 10) (n := n) (c := '+') (by decide) (by decide)
      (by simp [h])
    exact absurd hdigit (by decide)
  rw [unsigned?]
  · exact magnitude?_toDigits n
  · exact hplus

end Meaning
end Markup
end RowBatch
