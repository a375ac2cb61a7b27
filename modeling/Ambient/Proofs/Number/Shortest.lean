import Ambient.Number.Shortest
import Ambient.Proofs.Lexical.Numeral

namespace Ambient.Double

open Lexical

/-!
# Decimals are numerals

A decimal that is found for a positive double is not zero, so its digits do not
begin with one. What is written for a double is then a numeral: the digits of a
whole number, and a point only in front of more digits.
-/

theorem head?_toDigits_ne_zero {n : Nat} (h : 0 < n) :
    (Nat.toDigits 10 n).head? ≠ some '0' := by
  induction n using Nat.strongRecOn with
  | ind n ih =>
      rcases Nat.lt_or_ge n 10 with hsmall | hlarge
      · rw [Nat.toDigits_of_lt_base hsmall]
        simpa using Nat.ne_of_gt h
      · have hrest : 0 < n / 10 := by omega
        have hhead := ih (n / 10) (by omega) hrest
        obtain ⟨d, ds, hdigits⟩ := List.exists_cons_of_ne_nil
          (Nat.toDigits_ne_nil : Nat.toDigits 10 (n / 10) ≠ [])
        rw [Nat.toDigits_of_base_le (by omega) hlarge, hdigits]
        rwa [hdigits] at hhead

theorem isDigits_of_forall {cs : List Char} (hne : cs ≠ [])
    (h : ∀ c ∈ cs, c.isDigit = true) : isDigits Char.isDigit cs = true := by
  fun_induction isDigits Char.isDigit cs with
  | case1 => exact absurd rfl hne
  | case2 c => exact h c List.mem_cons_self
  | case3 c rest ih =>
      have hline := h '_' (by simp)
      cases hline
  | case4 c rest hnil hline ih =>
      rw [h c List.mem_cons_self, Bool.true_and]
      refine ih ?_ fun d hd => h d (List.mem_cons_of_mem c hd)
      rintro rfl
      exact hnil rfl

/-- Zero does not round to a positive double. -/
theorem digits_pos_of_contains {h : Neighbourhood} (hlow : 0 < h.low) {x : Decimal}
    (hx : h.contains x = true) : 0 < x.digits := by
  rw [Nat.pos_iff_ne_zero]
  intro hzero
  have hagainst : (x.against h.low h.den).1 = 0 ∧ 0 < (x.against h.low h.den).2 := by
    unfold Decimal.against
    rw [hzero]
    split
    · exact ⟨by simp, hlow⟩
    · exact ⟨Nat.zero_mul _, Nat.mul_pos hlow (Nat.pow_pos (by omega))⟩
  simp only [Neighbourhood.contains] at hx
  split at hx
  all_goals
    simp only [Bool.and_eq_true, decide_eq_true_eq] at hx
    omega

theorem digits_pos_of_decimalAt {h : Neighbourhood} (hlow : 0 < h.low) {scale : Int} {x : Decimal}
    (hx : h.decimalAt scale = some x) : 0 < x.digits := by
  unfold Neighbourhood.decimalAt at hx
  simp only at hx
  split at hx
  · next hbelow habove =>
      split at hx
      · cases hx
        exact digits_pos_of_contains hlow hbelow
      · cases hx
        exact digits_pos_of_contains hlow habove
  · next hbelow _ =>
      cases hx
      exact digits_pos_of_contains hlow hbelow
  · cases hx
    exact Nat.succ_pos _
  · cases hx

/-- What is found for a positive double is positive, or zero without a scale. -/
theorem shortestFrom_digits {h : Neighbourhood} (hlow : 0 < h.low) (scale : Int) (more : Nat) :
    0 < (h.shortestFrom scale more).digits ∨ h.shortestFrom scale more = ⟨0, 0⟩ := by
  induction more generalizing scale with
  | zero =>
      rw [Neighbourhood.shortestFrom]
      cases hfound : h.decimalAt scale with
      | none => exact .inr rfl
      | some x => exact .inl (digits_pos_of_decimalAt hlow hfound)
  | succ more ih =>
      rw [Neighbourhood.shortestFrom]
      cases hfound : h.decimalAt scale with
      | none => exact ih (scale - 1)
      | some x => exact .inl (digits_pos_of_decimalAt hlow hfound)

theorem neighbourhood_low_pos {x : Double} (hx : x.isZero = false) : 0 < x.neighbourhood.low := by
  have hmantissa : 0 < x.mantissa := by
    rw [Nat.pos_iff_ne_zero]
    simpa [isZero] using hx
  have hpow : 0 < if 0 ≤ x.exponent - 2 then Nat.pow 2 (x.exponent - 2).toNat else 1 := by
    split
    · exact Nat.pow_pos (by omega)
    · exact Nat.one_pos
  unfold neighbourhood
  refine Nat.mul_pos ?_ hpow
  split <;> omega

/-- Digits in their places: those of a whole number, and a point only in front of
more digits. -/
def IsPlaced (cs : List Char) : Prop :=
  ∃ whole fraction, isWhole whole = true ∧ (∀ c ∈ whole ++ fraction, c.isDigit = true) ∧
    cs = if fraction = [] then whole else whole ++ '.' :: fraction

theorem isWhole_of_head {cs : List Char} (hne : cs ≠ []) (hhead : cs.head? ≠ some '0')
    (hdigits : ∀ c ∈ cs, c.isDigit = true) : isWhole cs = true := by
  rw [isWhole, isDigits_of_forall hne hdigits]
  simp [hhead]

theorem mem_of_mem_trimZeros {digits : List Char} {c : Char} (h : c ∈ trimZeros digits) :
    c ∈ digits := by
  have hmem := List.dropWhile_sublist _ |>.mem (List.mem_reverse.mp h)
  exact List.mem_reverse.mp hmem

/-- The digits before the point: those that are there, or one zero. -/
theorem isWhole_take {digits : List Char} (hne : digits ≠ []) (hhead : digits.head? ≠ some '0')
    (hdigits : ∀ c ∈ digits, c.isDigit = true) {padded : List Char} {places : Nat}
    (hpadded : padded = List.replicate (places + 1 - digits.length) '0' ++ digits) :
    isWhole (padded.take (padded.length - places)) = true := by
  have hlength : 0 < digits.length := List.length_pos_iff.mpr hne
  rcases Nat.lt_or_ge places digits.length with hlong | hshort
  -- Zeros are put in front only where there are no digits for the whole part.
  · have hnone : places + 1 - digits.length = 0 := by omega
    rw [hpadded, hnone, List.replicate_zero, List.nil_append]
    obtain ⟨count, hcount⟩ : ∃ count, digits.length - places = count + 1 :=
      ⟨digits.length - places - 1, by omega⟩
    rw [hcount]
    cases digits with
    | nil => exact absurd rfl hne
    | cons d ds =>
        refine isWhole_of_head (List.cons_ne_nil _ _) hhead fun c hc => ?_
        exact hdigits c (List.mem_of_mem_take hc)
  · obtain ⟨count, hcount⟩ : ∃ count, places + 1 - digits.length = count + 1 :=
      ⟨places - digits.length, by omega⟩
    have hone : padded.length - places = 1 := by
      rw [hpadded, List.length_append, List.length_replicate]
      omega
    rw [hone, hpadded, hcount]
    rfl

theorem isPlaced_positional {x : Decimal} (h : 0 < x.digits) : IsPlaced x.positional := by
  have hne : Nat.toDigits 10 x.digits ≠ [] := Nat.toDigits_ne_nil
  have hhead := head?_toDigits_ne_zero h
  have hdigits : ∀ c ∈ Nat.toDigits 10 x.digits, c.isDigit = true := fun c hc =>
    Nat.isDigit_of_mem_toDigits (by omega) (by omega) hc
  have hzeros : ∀ count, ∀ c ∈ List.replicate count '0', c.isDigit = true := by
    intro count c hc
    rw [List.eq_of_mem_replicate hc]
    rfl
  unfold Decimal.positional
  generalize Nat.toDigits 10 x.digits = digits at hne hhead hdigits
  simp only
  split
  · have hall : ∀ c ∈ digits ++ List.replicate x.scale.toNat '0', c.isDigit = true := by
      intro c hc
      rcases List.mem_append.mp hc with hc | hc
      · exact hdigits c hc
      · exact hzeros _ c hc
    refine ⟨digits ++ List.replicate x.scale.toNat '0', [], ?_, by simpa using hall, rfl⟩
    refine isWhole_of_head (List.append_ne_nil_of_left_ne_nil hne _) ?_ hall
    cases digits with
    | nil => exact absurd rfl hne
    | cons d ds => exact hhead
  · generalize (-x.scale).toNat = places
    generalize hpadded : List.replicate (places + 1 - digits.length) '0' ++ digits = padded
    have hall : ∀ c ∈ padded, c.isDigit = true := by
      intro c hc
      rw [← hpadded] at hc
      rcases List.mem_append.mp hc with hc | hc
      · exact hzeros _ c hc
      · exact hdigits c hc
    refine ⟨_, trimZeros (padded.drop (padded.length - places)),
      isWhole_take hne hhead hdigits hpadded.symm, ?_, ?_⟩
    · intro c hc
      rcases List.mem_append.mp hc with hc | hc
      · exact hall c (List.mem_of_mem_take hc)
      · exact hall c (List.mem_of_mem_drop (mem_of_mem_trimZeros hc))
    · split
      · next hnil => rw [if_pos hnil]
      · next hsome => rw [if_neg hsome]

theorem isFixed_of_isPlaced {cs : List Char} (h : IsPlaced cs) : isFixed cs = true := by
  obtain ⟨whole, fraction, hwhole, hdigits, rfl⟩ := h
  have hpoint : ∀ c ∈ whole, decide (c ≠ '.') = true := by
    intro c hc
    have hdigit := hdigits c (List.mem_append_left _ hc)
    rw [decide_eq_true_eq]
    rintro rfl
    cases hdigit
  cases fraction with
  | nil =>
      have hdrop : (whole ++ []).dropWhile (· ≠ '.') = [] :=
        List.dropWhile_append_of_pos hpoint
      rw [List.append_nil] at hdrop
      rw [if_pos rfl, isFixed, hdrop]
      exact hwhole
  | cons d ds =>
      have htake : (whole ++ '.' :: d :: ds).takeWhile (· ≠ '.') = whole := by
        rw [List.takeWhile_append_of_pos hpoint, List.takeWhile_cons_of_neg (by simp),
          List.append_nil]
      have hdrop : (whole ++ '.' :: d :: ds).dropWhile (· ≠ '.') = '.' :: d :: ds := by
        rw [List.dropWhile_append_of_pos hpoint, List.dropWhile_cons_of_neg (by simp)]
      have hfraction : isDigits Char.isDigit (d :: ds) = true :=
        isDigits_of_forall (List.cons_ne_nil _ _) fun c hc =>
          hdigits c (List.mem_append_right _ hc)
      rw [if_neg (List.cons_ne_nil _ _), isFixed, hdrop]
      simp only [htake, hwhole, hfraction, Bool.or_true, Bool.and_true]

theorem forall_of_isPlaced {cs : List Char} (h : IsPlaced cs) :
    ∀ c ∈ cs, c.isDigit = true ∨ c = '.' := by
  obtain ⟨whole, fraction, -, hdigits, rfl⟩ := h
  intro c hc
  split at hc
  · exact .inl (hdigits c (List.mem_append_left _ hc))
  · rcases List.mem_append.mp hc with hc | hc
    · exact .inl (hdigits c (List.mem_append_left _ hc))
    · rcases List.mem_cons.mp hc with rfl | hc
      · exact .inr rfl
      · exact .inl (hdigits c (List.mem_append_right _ hc))

theorem isDecimal_of_isPlaced {cs : List Char} (h : IsPlaced cs) : isDecimal cs = true := by
  have hmark : ∀ c ∈ cs, (!isExponentMark c) = true := by
    intro c hc
    rw [Bool.not_eq_true', Bool.eq_false_iff]
    intro hmark
    simp only [isExponentMark, Bool.or_eq_true, decide_eq_true_eq] at hmark
    rcases hmark with rfl | rfl
    all_goals rcases forall_of_isPlaced h _ hc with hdigit | hpoint
    all_goals contradiction
  have htake : (cs ++ []).takeWhile (!isExponentMark ·) = cs ++ [] :=
    List.takeWhile_append_of_pos hmark
  have hdrop : (cs ++ []).dropWhile (!isExponentMark ·) = [] :=
    List.dropWhile_append_of_pos hmark
  rw [List.append_nil] at htake hdrop
  simp [isDecimal, htake, hdrop, isFixed_of_isPlaced h]

theorem isUnsigned_of_isPlaced {cs : List Char} (h : IsPlaced cs) : isUnsigned cs = true := by
  have hdecimal := isDecimal_of_isPlaced h
  have hchars := forall_of_isPlaced h
  unfold isUnsigned
  split
  · next base digits =>
      have hbase : ∀ c : Char, c.isDigit = false → c ≠ '.' → base ≠ c := by
        rintro c hdigit hpoint rfl
        rcases hchars base (by simp) with hbase | hbase
        · rw [hdigit] at hbase
          cases hbase
        · exact hpoint hbase
      rw [if_neg, if_neg, if_neg]
      · exact hdecimal
      all_goals
        rw [not_or]
        exact ⟨hbase _ (by decide) (by decide), hbase _ (by decide) (by decide)⟩
  · exact hdecimal

theorem numeralLength_of_forall {cs : List Char} (h : ∀ c ∈ cs, c.isDigit = true ∨ c = '.')
    (previous : Char) : numeralLength previous cs = cs.length := by
  induction cs generalizing previous with
  | nil => rfl
  | cons c cs ih =>
      have hpart : isNumeralPart previous c = true := by
        rcases h c List.mem_cons_self with hdigit | rfl
        · simp [isNumeralPart, isNamePart_of_isDigit hdigit]
        · simp [isNumeralPart]
      rw [numeralLength, if_pos hpart, ih (fun d hd => h d (List.mem_cons_of_mem c hd)),
        List.length_cons]

theorem isPlaced_magnitude (x : Double) :
    IsPlaced (if x.isZero then ['0'] else x.shortest.positional) := by
  have hzero : IsPlaced ['0'] := ⟨['0'], [], rfl, by simp, rfl⟩
  split
  · exact hzero
  · next hx =>
      have hlow := neighbourhood_low_pos (Bool.eq_false_iff.mpr hx)
      rcases shortestFrom_digits hlow (magnitude x.neighbourhood.value x.neighbourhood.den - 1) 16
        with hpos | hnone
      · exact isPlaced_positional hpos
      · rw [shortest]
        simp only [hnone]
        exact hzero

theorem exists_digit_of_isPlaced {cs : List Char} (h : IsPlaced cs) :
    ∃ c rest, cs = c :: rest ∧ c.isDigit = true := by
  obtain ⟨whole, fraction, hwhole, hdigits, rfl⟩ := h
  cases whole with
  | nil => cases hwhole
  | cons c whole =>
      have hdigit := hdigits c (by simp)
      split
      · exact ⟨c, whole, rfl, hdigit⟩
      · exact ⟨c, whole ++ '.' :: fraction, rfl, hdigit⟩

/-- What is written for a double is a numeral. -/
theorem isNumeral_text (x : Double) : isNumeral x.text = true := by
  have hplaced := isPlaced_magnitude x
  unfold text
  simp only
  generalize (if x.isZero then ['0'] else x.shortest.positional) = cs at hplaced
  have hunsigned := isUnsigned_of_isPlaced hplaced
  have hchars := forall_of_isPlaced hplaced
  cases x.negative with
  | true =>
      have hlength := numeralLength_of_forall hchars '-'
      simp [isNumeral, startsNumeral, hlength, hunsigned]
  | false =>
      obtain ⟨c, rest, rfl, hdigit⟩ := exists_digit_of_isPlaced hplaced
      have hlength := numeralLength_of_forall
        (fun d hd => hchars d (List.mem_cons_of_mem c hd)) c
      have hsign : c ≠ '-' := by
        rintro rfl
        cases hdigit
      simp [isNumeral, startsNumeral, hdigit, hsign, hlength, hunsigned]

end Ambient.Double
