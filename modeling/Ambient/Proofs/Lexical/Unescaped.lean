import Ambient.Proofs.Lexical.Literal
import Ambient.Proofs.Text.Lines

namespace Ambient

/-!
# Texts between quotes

A text that is put between quotes as it is makes a literal for that text exactly if none of
its characters has to be escaped, also where the text has been indented meanwhile. What has
to be shown is that escapes cannot make up for each other: a backslash weighs so much that a
literal with an escape in it always reads as less than the text that it was made of.
-/

/-- A text between quotes as it is. -/
def Text.inQuotes (text : String) : String := "'" ++ text ++ "'"

theorem Text.toList_inQuotes (text : String) :
    (inQuotes text).toList = '\'' :: (text.toList ++ ['\'']) := by
  simp [inQuotes]

namespace Lexical

/-- Whether a character cannot stand for itself between single quotes. -/
def needsEscape (c : Char) : Bool :=
  c = '\'' || c = '\\' || c = '\n' || c = '\r'

theorem needsEscape_eq_false_iff {c : Char} :
    needsEscape c = false ↔ c ≠ '\'' ∧ c ≠ '\\' ∧ c ≠ '\n' ∧ c ≠ '\r' := by
  simp [needsEscape, and_assoc]

theorem literalLength_append_of_not_needsEscape {cs : List Char}
    (h : ∀ c ∈ cs, needsEscape c = false) (rest : List Char) :
    literalLength '\'' (cs ++ rest) = (literalLength '\'' rest).map (· + cs.length) := by
  induction cs with
  | nil => simp
  | cons c cs ih =>
      obtain ⟨hc, hcs⟩ := List.forall_mem_cons.mp h
      obtain ⟨hquote, hbackslash, hline⟩ := needsEscape_eq_false_iff.mp hc
      rw [List.cons_append, literalLength_cons hquote hbackslash hline, ih hcs, Option.map_map]
      congr 1

theorem bodyUnits?_of_not_needsEscape {cs : List Char} (h : ∀ c ∈ cs, needsEscape c = false) :
    bodyUnits? cs = some (cs.flatMap charUnits) := by
  induction cs with
  | nil => rw [bodyUnits?, List.flatMap_nil]
  | cons c cs ih =>
      obtain ⟨hc, hcs⟩ := List.forall_mem_cons.mp h
      rw [bodyUnits?_cons (needsEscape_eq_false_iff.mp hc).2.1, ih hcs, Option.map_some,
        List.flatMap_cons]

theorem literalUnits?_eq_some_iff {cs : List Char} {units : List Nat} :
    literalUnits? (String.ofList ('\'' :: (cs ++ ['\'']))) = some units ↔
      literalLength '\'' (cs ++ ['\'']) = some (cs.length + 1) ∧ bodyUnits? cs = some units := by
  simp [literalUnits?]

/-- How much units weigh, if a backslash weighs `heavy`. -/
def weight (heavy : Nat) : List Nat → Nat
  | [] => 0
  | unit :: units => (if unit = 92 then heavy else 1) + weight heavy units

section

variable {heavy : Nat}

@[simp] theorem weight_nil : weight heavy [] = 0 := rfl

@[simp] theorem weight_append (units others : List Nat) :
    weight heavy (units ++ others) = weight heavy units + weight heavy others := by
  induction units with
  | nil => simp
  | cons unit units ih => rw [List.cons_append, weight, weight, ih, Nat.add_assoc]

theorem weight_singleton_le (h : 1 ≤ heavy) (unit : Nat) : weight heavy [unit] ≤ heavy := by
  rw [weight, weight_nil]
  split <;> omega

theorem weight_charUnits_backslash : weight heavy (charUnits '\\') = heavy := by
  simp [weight, charUnits]

theorem length_le_weight (h : 1 ≤ heavy) (units : List Nat) :
    units.length ≤ weight heavy units := by
  induction units with
  | nil => simp
  | cons unit units ih =>
      rw [weight, List.length_cons]
      split <;> omega

theorem weight_charUnits_pos (h : 1 ≤ heavy) (c : Char) : 1 ≤ weight heavy (charUnits c) := by
  refine Nat.le_trans ?_ (length_le_weight h _)
  unfold charUnits
  split <;> simp

theorem weight_pair {unit other : Nat} (hunit : 92 < unit) (hother : 92 < other) :
    weight heavy [unit, other] = 2 := by
  simp [weight, Nat.ne_of_gt hunit, Nat.ne_of_gt hother]

theorem weight_charUnits_le (h : 2 ≤ heavy) (c : Char) : weight heavy (charUnits c) ≤ heavy := by
  unfold charUnits
  split
  · exact weight_singleton_le (by omega) _
  · have hlow (start n : Nat) (hstart : 92 < start) : 92 < start + n := by omega
    rw [weight_pair (hlow _ _ (by decide)) (hlow _ _ (by decide))]
    exact h

end

/-- How much characters weigh. -/
def charsWeight (heavy : Nat) (cs : List Char) : Nat := weight heavy (cs.flatMap charUnits)

section

variable {heavy : Nat}

@[simp] theorem charsWeight_nil : charsWeight heavy [] = 0 := rfl

@[simp] theorem charsWeight_append (cs ds : List Char) :
    charsWeight heavy (cs ++ ds) = charsWeight heavy cs + charsWeight heavy ds := by
  simp [charsWeight]

@[simp] theorem charsWeight_cons (c : Char) (cs : List Char) :
    charsWeight heavy (c :: cs) = weight heavy (charUnits c) + charsWeight heavy cs := by
  simp [charsWeight]

theorem length_le_charsWeight (h : 1 ≤ heavy) (cs : List Char) :
    cs.length ≤ charsWeight heavy cs := by
  induction cs with
  | nil => simp
  | cons c cs ih =>
      have hc := weight_charUnits_pos h c
      rw [charsWeight_cons, List.length_cons]
      omega

end

/-- The characters of an escape behind its backslash, and what follows them. The escape is
read as less than its characters, even if each newline among them weighs `step` more, and a
scan for the end of the literal passes over it. -/
structure IsEscape (step : Nat) (consumed remaining : List Char) (units : List Nat) : Prop where
  weight_lt : weight (step + 2) units + step * consumed.count '\n' <
    step + 2 + charsWeight (step + 2) consumed
  scan : literalLength '\'' ('\\' :: (consumed ++ (remaining ++ ['\'']))) =
    (literalLength '\'' (remaining ++ ['\''])).map (· + (consumed.length + 1))

theorem literalLength_backslash {c : Char} {rest : List Char}
    (h : c = '\r' → rest.head? ≠ some '\n') :
    literalLength '\'' ('\\' :: c :: rest) = (literalLength '\'' rest).map (· + 2) := by
  rw [literalLength]
  rintro more rfl rfl
  exact h rfl rfl

/-- One character behind the backslash, and more that stand for themselves. -/
theorem isEscape_of_not_needsEscape {step : Nat} {c : Char} {inert remaining : List Char}
    {units : List Nat} (hc : c ≠ '\n' ∧ c ≠ '\r') (hinert : ∀ c ∈ inert, needsEscape c = false)
    (hunits : weight (step + 2) units ≤ step + 2) : IsEscape step (c :: inert) remaining units where
  weight_lt := by
    have hcount : (c :: inert).count '\n' = 0 := by
      rw [List.count_eq_zero, List.mem_cons, not_or]
      exact ⟨hc.1.symm, fun h => (needsEscape_eq_false_iff.mp (hinert _ h)).2.2.1 rfl⟩
    have hpos := weight_charUnits_pos (show 1 ≤ step + 2 by omega) c
    rw [hcount, charsWeight_cons]
    omega
  scan := by
    rw [List.cons_append, literalLength_backslash (fun h => absurd h hc.2),
      literalLength_append_of_not_needsEscape hinert, Option.map_map]
    congr 1

theorem not_needsEscape_of_isHexDigit {c : Char} (h : isHexDigit c = true) :
    needsEscape c = false := by
  rw [needsEscape_eq_false_iff]
  refine ⟨?_, ?_, ?_, ?_⟩ <;> rintro rfl <;> revert h <;> decide

theorem weight_codePointUnits? {step code : Nat} {units : List Nat}
    (h : codePointUnits? code = some units) : weight (step + 2) units ≤ step + 2 := by
  unfold codePointUnits? at h
  split at h
  · cases h
    exact weight_singleton_le (by omega) _
  · split at h
    · cases h
      exact weight_charUnits_le (by omega) _
    · cases h

theorem weight_escapedUnits? {heavy : Nat} (h : 1 ≤ heavy) {c : Char} {units : List Nat}
    (hunits : escapedUnits? c = some units) :
    weight heavy units ≤ weight heavy (charUnits c) ∧ (c = '\n' → units = []) := by
  have hpos := weight_charUnits_pos h c
  unfold escapedUnits? at hunits
  split at hunits
  case h_9 =>
      split at hunits
      · cases hunits
      · split at hunits
        next hline =>
            cases hunits
            exact ⟨Nat.zero_le _, fun _ => rfl⟩
        next hline =>
            cases hunits
            refine ⟨Nat.le_refl _, ?_⟩
            rintro rfl
            exact absurd rfl hline
  all_goals cases hunits <;> exact ⟨hpos, by decide⟩

theorem isEscape_codePoint {step code : Nat} {digits remaining : List Char} {units : List Nat}
    (hdigits : ∀ c ∈ digits, isHexDigit c = true) (hunits : codePointUnits? code = some units) :
    IsEscape step ('u' :: '{' :: (digits ++ ['}'])) remaining units := by
  refine isEscape_of_not_needsEscape (by decide) (fun c hc => ?_) (weight_codePointUnits? hunits)
  simp only [List.mem_cons, List.mem_append, List.not_mem_nil, or_false] at hc
  rcases hc with rfl | hc | rfl
  · decide
  · exact not_needsEscape_of_isHexDigit (hdigits c hc)
  · decide

/-- A line feed that is escaped stands for nothing, and another character for no more than it
weighs itself. -/
theorem isEscape_of_escapedUnits? {step : Nat} {c : Char} {remaining : List Char}
    {units : List Nat} (hunits : escapedUnits? c = some units)
    (hline : c = '\r' → remaining.head? ≠ some '\n') : IsEscape step [c] remaining units where
  weight_lt := by
    obtain ⟨hle, hnewline⟩ := weight_escapedUnits? (show 1 ≤ step + 2 by omega) hunits
    rw [charsWeight_cons, charsWeight_nil]
    by_cases hc : c = '\n'
    · obtain rfl := hnewline hc
      rw [hc, List.count_singleton_self, weight_nil]
      omega
    · rw [List.count_eq_zero.mpr (by simpa using Ne.symm hc)]
      omega
  scan := by
    rw [List.cons_append, List.nil_append, literalLength_backslash fun hreturn => ?_]
    · rfl
    · cases remaining with
      | nil => simp
      | cons next rest => exact hline hreturn

theorem exists_isEscape (step : Nat) {rest : List Char} {units : List Nat} {count : Nat}
    (h : escape? rest = some (units, count)) : ∃ consumed remaining,
      rest = consumed ++ remaining ∧ count = consumed.length ∧
        IsEscape step consumed remaining units := by
  unfold escape? at h
  split at h
  next rest =>
      cases h
      refine ⟨['\r', '\n'], rest, rfl, rfl, ?_, rfl⟩
      have hlength := length_le_charsWeight (show 1 ≤ step + 2 by omega) ['\r', '\n']
      simp only [weight_nil, List.length_cons, List.length_nil] at hlength ⊢
      have hcount : ['\r', '\n'].count '\n' = 1 := by decide
      rw [hcount]
      omega
  next rest =>
      split at h
      · cases h
      · cases h
        exact ⟨['0'], rest, rfl, rfl, isEscape_of_not_needsEscape (by decide) (by simp)
          (weight_singleton_le (by omega) _)⟩
  next a b rest =>
      split at h
      next hhex =>
          cases h
          refine ⟨['x', a, b], rest, rfl, rfl, isEscape_of_not_needsEscape (by decide) ?_
            (weight_singleton_le (by omega) _)⟩
          exact fun c hc => not_needsEscape_of_isHexDigit (List.all_eq_true.mp hhex c hc)
      · cases h
  next rest =>
      obtain ⟨hends, h⟩ := Option.ite_none_right_eq_some.mp h
      obtain ⟨found, hfound, hpair⟩ := Option.map_eq_some_iff.mp h
      cases hpair
      obtain ⟨remaining, hremaining⟩ : ∃ remaining,
          rest.drop (rest.takeWhile isHexDigit).length = '}' :: remaining :=
        List.head?_eq_some_iff.mp hends.2
      have hsplit : rest = rest.takeWhile isHexDigit ++ '}' :: remaining := by
        rw [← hremaining]
        exact (List.prefix_iff_eq_append.mp (List.takeWhile_prefix _)).symm
      refine ⟨'u' :: '{' :: (rest.takeWhile isHexDigit ++ ['}']), remaining, ?_, by simp,
        isEscape_codePoint (List.all_eq_true.mp List.all_takeWhile) hfound⟩
      rw [List.cons_append, List.cons_append, List.append_assoc, List.singleton_append, ← hsplit]
  next a b c d rest hbrace =>
      split at h
      next hhex =>
          cases h
          refine ⟨['u', a, b, c, d], rest, rfl, rfl, isEscape_of_not_needsEscape (by decide) ?_
            (weight_singleton_le (by omega) _)⟩
          exact fun c hc => not_needsEscape_of_isHexDigit (List.all_eq_true.mp hhex c hc)
      · cases h
  next c rest hcr hzero hx hbrace hu =>
      obtain ⟨found, hfound, hpair⟩ := Option.map_eq_some_iff.mp h
      cases hpair
      refine ⟨[c], rest, rfl, rfl, isEscape_of_escapedUnits? hfound fun hreturn hnext => ?_⟩
      obtain ⟨others, rfl⟩ := List.head?_eq_some_iff.mp hnext
      exact hcr others hreturn rfl
  next => cases h

theorem not_needsEscape_of_literalLength {c : Char} {rest : List Char} (hc : c ≠ '\\')
    (h : literalLength '\'' (c :: (rest ++ ['\''])) = some (rest.length + 2)) :
    needsEscape c = false ∧ literalLength '\'' (rest ++ ['\'']) = some (rest.length + 1) := by
  rw [literalLength] at h
  · split at h
    · cases h
    · next hquote =>
        split at h
        · cases h
        · next hline =>
            obtain ⟨n, hn, hcount⟩ := Option.map_eq_some_iff.mp h
            obtain rfl : n = rest.length + 1 := by omega
            refine ⟨needsEscape_eq_false_iff.mpr ⟨hquote, hc, ?_⟩, hn⟩
            simpa using hline
  · exact fun _ hbackslash => absurd hbackslash hc
  · exact fun _ _ hbackslash => absurd hbackslash hc

/-- A literal with a backslash in it is read as less than its characters, even if each
newline among them weighs `step` more. -/
theorem weight_bodyUnits?_le (step : Nat) {cs : List Char} {units : List Nat}
    (hlength : literalLength '\'' (cs ++ ['\'']) = some (cs.length + 1))
    (hunits : bodyUnits? cs = some units) :
    weight (step + 2) units + step * cs.count '\n' + (if '\\' ∈ cs then 1 else 0) ≤
      charsWeight (step + 2) cs := by
  fun_induction bodyUnits? cs generalizing units with
  | case1 =>
      cases hunits
      simp
  | case2 rest h => cases hunits
  | case3 rest found count h ih =>
      obtain ⟨consumed, remaining, rfl, rfl, hescape⟩ := exists_isEscape step h
      rw [List.drop_left] at hunits ih
      obtain ⟨others, hothers, rfl⟩ := Option.map_eq_some_iff.mp hunits
      rw [List.cons_append, List.append_assoc, hescape.scan] at hlength
      obtain ⟨n, hn, hcount⟩ := Option.map_eq_some_iff.mp hlength
      have hn' : n = remaining.length + 1 := by
        simp only [List.length_cons, List.length_append] at hcount
        omega
      have hrest := ih (hn' ▸ hn) hothers
      have hlt := hescape.weight_lt
      rw [if_pos List.mem_cons_self, weight_append, charsWeight_cons, charsWeight_append,
        weight_charUnits_backslash, List.count_cons_of_ne (by decide), List.count_append,
        Nat.mul_add]
      omega
  | case4 c rest h ih =>
      obtain ⟨others, hothers, rfl⟩ := Option.map_eq_some_iff.mp hunits
      obtain ⟨hc, hrest⟩ := not_needsEscape_of_literalLength h hlength
      have hline := (needsEscape_eq_false_iff.mp hc).2.2.1
      rw [weight_append, charsWeight_cons, List.count_cons_of_ne hline]
      have hle := ih hrest hothers
      simp only [List.mem_cons, Ne.symm h, false_or]
      omega

theorem not_needsEscape_of_no_backslash {cs : List Char} (hcs : '\\' ∉ cs)
    (h : literalLength '\'' (cs ++ ['\'']) = some (cs.length + 1)) :
    ∀ c ∈ cs, needsEscape c = false := by
  induction cs with
  | nil => simp
  | cons c cs ih =>
      simp only [List.mem_cons, not_or] at hcs
      obtain ⟨hc, hrest⟩ := not_needsEscape_of_literalLength (Ne.symm hcs.1) h
      exact List.forall_mem_cons.mpr ⟨hc, ih hcs.2 hrest⟩

section

variable {step : List Char}

theorem charsWeight_blanks {heavy : Nat} (hstep : ∀ c ∈ step, c = ' ') :
    charsWeight heavy step = step.length := by
  induction step with
  | nil => rfl
  | cons c step ih =>
      obtain ⟨rfl, hrest⟩ := List.forall_mem_cons.mp hstep
      rw [charsWeight_cons, ih hrest, List.length_cons]
      change 1 + _ = _
      omega

/-- Behind each newline an indented text weighs more by the step. -/
theorem charsWeight_indented {heavy : Nat} (hstep : ∀ c ∈ step, c = ' ') (cs : List Char) :
    charsWeight heavy (cs.flatMap (Text.indentChar step)) =
      charsWeight heavy cs + step.length * cs.count '\n' := by
  induction cs with
  | nil => rfl
  | cons c cs ih =>
      rw [List.flatMap_cons, charsWeight_append, ih, charsWeight_cons]
      by_cases hc : c = '\n'
      · rw [Text.indentChar, if_pos hc, charsWeight_cons, charsWeight_blanks hstep, hc,
          List.count_cons_self, Nat.mul_succ]
        omega
      · rw [Text.indentChar, if_neg hc, charsWeight_cons, charsWeight_nil,
          List.count_cons_of_ne hc]
        omega

theorem count_indented (hstep : ∀ c ∈ step, c = ' ') (cs : List Char) :
    (cs.flatMap (Text.indentChar step)).count '\n' = cs.count '\n' := by
  have hblank : step.count '\n' = 0 :=
    List.count_eq_zero.mpr fun h => absurd (hstep _ h) (by decide)
  induction cs with
  | nil => rfl
  | cons c cs ih =>
      rw [List.flatMap_cons, List.count_append, ih]
      by_cases hc : c = '\n'
      · rw [Text.indentChar, if_pos hc, hc, List.count_cons_self, List.count_cons_self, hblank]
        omega
      · rw [Text.indentChar, if_neg hc, List.count_cons_of_ne hc, List.count_cons_of_ne hc,
          List.count_nil, Nat.zero_add]

theorem mem_indented {c : Char} {cs : List Char} (h : c ∈ cs) :
    c ∈ cs.flatMap (Text.indentChar step) := by
  refine List.mem_flatMap.mpr ⟨c, h, ?_⟩
  rw [Text.indentChar]
  split <;> simp

end

/-- Put between quotes as it is and indented, a text makes a literal for itself exactly if
none of its characters has to be escaped. -/
theorem literalUnits?_inQuotes_iff {step : String} (hstep : ∀ c ∈ step.toList, c = ' ')
    (text : String) :
    literalUnits? (Text.hang step (Text.inQuotes text)) = some (textUnits text) ↔
      ∀ c ∈ text.toList, needsEscape c = false := by
  have hquoted : Text.hang step (Text.inQuotes text) = String.ofList
      ('\'' :: (text.toList.flatMap (Text.indentChar step.toList) ++ ['\''])) := by
    rw [Text.hang, Text.toList_inQuotes, List.flatMap_cons, List.flatMap_append]
    rfl
  rw [hquoted, literalUnits?_eq_some_iff]
  constructor
  · rintro ⟨hlength, hunits⟩
    have hbackslash : '\\' ∉ text.toList.flatMap (Text.indentChar step.toList) := by
      intro hmem
      have hle := weight_bodyUnits?_le step.toList.length hlength hunits
      rw [if_pos hmem, charsWeight_indented hstep, count_indented hstep] at hle
      have hunits : weight (step.toList.length + 2) (textUnits text) =
          charsWeight (step.toList.length + 2) text.toList := rfl
      omega
    exact fun c hc => not_needsEscape_of_no_backslash hbackslash hlength c (mem_indented hc)
  · intro h
    have hnewline : '\n' ∉ text.toList :=
      fun hmem => (needsEscape_eq_false_iff.mp (h _ hmem)).2.2.1 rfl
    rw [Text.flatMap_indentChar_of_no_newline hnewline]
    refine ⟨?_, bodyUnits?_of_not_needsEscape h⟩
    have hend : literalLength '\'' ['\''] = some 1 := rfl
    rw [literalLength_append_of_not_needsEscape h, hend, Option.map_some, Nat.add_comm]

/-- The literal that a text begins with, and what it stands for. -/
def firstLiteral? (text : String) : Option (String × List Nat) :=
  match text.toList with
  | [] => none
  | quote :: rest => (literalLength quote rest).bind fun count =>
    let literal := String.ofList (quote :: rest.take count)
    (literalUnits? literal).map fun units => (literal, units)

theorem firstLiteral?_append_iff {literal : String} (hquote : literal.toList.head? = some '\'')
    (after : String) (units : List Nat) :
    firstLiteral? (literal ++ after) = some (literal, units) ↔
      literalUnits? literal = some units := by
  obtain ⟨rest, hliteral⟩ := List.head?_eq_some_iff.mp hquote
  obtain rfl : literal = String.ofList ('\'' :: rest) := by
    rw [← hliteral, String.ofList_toList]
  have hfirst : firstLiteral? (String.ofList ('\'' :: rest) ++ after) =
      (literalLength '\'' (rest ++ after.toList)).bind fun count =>
        (literalUnits? (String.ofList ('\'' :: (rest ++ after.toList).take count))).map
          fun units => (String.ofList ('\'' :: (rest ++ after.toList).take count), units) := by
    simp [firstLiteral?]
  rw [hfirst]
  constructor
  · intro h
    obtain ⟨count, -, h⟩ := Option.bind_eq_some_iff.mp h
    obtain ⟨found, hfound, hpair⟩ := Option.map_eq_some_iff.mp h
    obtain ⟨hsame, rfl⟩ := Prod.mk.inj hpair
    rwa [hsame] at hfound
  · intro h
    have hlength : literalLength '\'' rest = some rest.length := by
      by_contra hnone
      simp [literalUnits?, hnone] at h
    rw [literalLength_append (by decide) hlength, Option.bind_some, List.take_left, h,
      Option.map_some]

/-- In front of any text, what is put between quotes is read as a literal for itself exactly if
none of its characters has to be escaped. -/
theorem firstLiteral?_inQuotes_iff {step : String} (hstep : ∀ c ∈ step.toList, c = ' ')
    (text after : String) :
    firstLiteral? (Text.hang step (Text.inQuotes text) ++ after) =
        some (Text.hang step (Text.inQuotes text), textUnits text) ↔
      ∀ c ∈ text.toList, needsEscape c = false := by
  have hquote : (Text.hang step (Text.inQuotes text)).toList.head? = some '\'' := by
    rw [Text.hang, Text.toList_inQuotes, String.toList_ofList, List.flatMap_cons]
    rfl
  rw [firstLiteral?_append_iff hquote, literalUnits?_inQuotes_iff hstep]

end Lexical

end Ambient
