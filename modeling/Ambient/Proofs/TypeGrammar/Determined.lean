import Ambient.Proofs.TypeGrammar.Basic

namespace Ambient.TypeGrammar

open Lexical

/-!
# Parts that are determined by their tokens

A part is determined if no other part begins with the same tokens, as long as
none of the tokens that could go on with it stands behind it. Lists of such
parts are determined as well, by their separators and their ends.
-/

/-- None of these tokens comes next. -/
def Ends (stops rest : List Token) : Prop := ∀ token ∈ rest.head?, token ∉ stops

def Determined {α : Type} (tokens : α → List Token) (stops : List Token) (a : α) : Prop :=
  ∀ b r s, Ends stops r → Ends stops s → tokens a ++ r = tokens b ++ s → a = b ∧ r = s

theorem ends_nil (stops : List Token) : Ends stops [] := by
  intro token h
  cases h

@[simp] theorem ends_cons {stops : List Token} {token : Token} {rest : List Token} :
    Ends stops (token :: rest) ↔ token ∉ stops := by
  simp [Ends]

theorem Ends.ne_cons {stops rest more : List Token} {token : Token} (h : Ends stops rest)
    (htoken : token ∈ stops) : rest ≠ token :: more := by
  rintro rfl
  exact ends_cons.mp h htoken

theorem Ends.mono {stops more rest : List Token} (h : Ends more rest)
    (hstops : ∀ token ∈ stops, token ∈ more) : Ends stops rest :=
  fun token htoken hmem => h token htoken (hstops token hmem)

/-- What ends a list is behind its last part. -/
theorem Ends.append {stops tokens rest : List Token} (htokens : Ends stops tokens)
    (hrest : Ends stops rest) : Ends stops (tokens ++ rest) := by
  cases tokens with
  | nil => exact hrest
  | cons token tokens => exact htokens

theorem ends_followed {stops : List Token} {mark : Mark} (hmark : .mark mark ∉ stops)
    (parts : List (List Token)) : Ends stops (followed mark parts) := by
  cases parts with
  | nil => exact ends_nil stops
  | cons part parts =>
      rw [followed, List.flatMap_cons, List.cons_append, ends_cons]
      exact hmark

section Lists

variable {α : Type} {tokens : α → List Token} {stops : List Token} {mark : Mark}

theorem followed_determined {xs : List α} (hmark : .mark mark ∉ stops)
    (hxs : ∀ x ∈ xs, Determined tokens stops x) :
    Determined (fun xs : List α => followed mark (xs.map tokens)) (.mark mark :: stops) xs := by
  induction xs with
  | nil =>
      intro ys r s hr _ h
      cases ys with
      | nil => exact ⟨rfl, h⟩
      | cons y ys =>
          exact absurd h (hr.ne_cons List.mem_cons_self)
  | cons x xs ih =>
      intro ys r s hr hs h
      cases ys with
      | nil =>
          exact absurd h.symm (hs.ne_cons List.mem_cons_self)
      | cons y ys =>
          -- Behind a part comes the mark or what ends the list, and neither goes on with it.
          have hparts : tokens x ++ (followed mark (xs.map tokens) ++ r) =
              tokens y ++ (followed mark (ys.map tokens) ++ s) := by
            simpa [followed] using h
          have hstops : ∀ token ∈ stops, token ∈ Token.mark mark :: stops := by
            intro token htoken
            exact List.mem_cons_of_mem _ htoken
          obtain ⟨rfl, hrest⟩ := hxs x List.mem_cons_self y _ _
            ((ends_followed hmark _).append (hr.mono hstops))
            ((ends_followed hmark _).append (hs.mono hstops)) hparts
          obtain ⟨rfl, rfl⟩ := ih (fun z hz => hxs z (List.mem_cons_of_mem x hz)) ys r s hr hs hrest
          exact ⟨rfl, rfl⟩

/-- A list with at least one part, such as the operands of an operator. -/
theorem chain_determined {first : α} {others : List α} (hmark : .mark mark ∉ stops)
    (hfirst : Determined tokens stops first) (hothers : ∀ x ∈ others, Determined tokens stops x) :
    Determined (fun chain : α × List α => separated mark (tokens chain.1 :: chain.2.map tokens))
      (.mark mark :: stops) (first, others) := by
  rintro ⟨first', others'⟩ r s hr hs h
  have hstops : ∀ token ∈ stops, token ∈ Token.mark mark :: stops := by
    intro token htoken
    exact List.mem_cons_of_mem _ htoken
  simp only [separated, List.append_assoc] at h
  obtain ⟨rfl, hrest⟩ := hfirst first' _ _ ((ends_followed hmark _).append (hr.mono hstops))
    ((ends_followed hmark _).append (hs.mono hstops)) h
  obtain ⟨rfl, rfl⟩ := followed_determined hmark hothers others' r s hr hs hrest
  exact ⟨rfl, rfl⟩

/-- The end of a list in delimiters is known from the closing one. -/
theorem delimited_determined {opening closing : Mark} {xs : List α}
    (hstops : .mark .comma ∉ stops ∧ .mark closing ∉ stops) (hclosing : closing ≠ .comma)
    (hstart : ∀ y r s, tokens y ++ r ≠ .mark closing :: s)
    (hxs : ∀ x ∈ xs, Determined tokens stops x) :
    Determined (fun xs : List α => delimited opening closing (xs.map tokens)) [] xs := by
  intro ys r s _ _ h
  replace h : separated .comma (xs.map tokens) ++ .mark closing :: r =
      separated .comma (ys.map tokens) ++ .mark closing :: s := by
    simpa [delimited] using h
  cases xs with
  | nil =>
      cases ys with
      | nil =>
          injection h with _ hrest
          exact ⟨rfl, hrest⟩
      | cons y ys =>
          refine absurd ?_ (hstart y (followed .comma (ys.map tokens) ++ .mark closing :: s) r)
          simpa [separated] using h.symm
  | cons x xs =>
      cases ys with
      | nil =>
          refine absurd ?_ (hstart x (followed .comma (xs.map tokens) ++ .mark closing :: r) s)
          simpa [separated] using h
      | cons y ys =>
          have hends : ∀ rest, Ends (.mark .comma :: stops) (.mark closing :: rest) := by
            intro rest
            rw [ends_cons]
            simp [hclosing, hstops.2]
          obtain ⟨heq, hrest⟩ := chain_determined hstops.1 (hxs x List.mem_cons_self)
            (fun z hz => hxs z (List.mem_cons_of_mem x hz)) (y, ys) _ _ (hends r) (hends s) h
          cases heq
          injection hrest with _ hrest
          exact ⟨rfl, hrest⟩

theorem angled_determined {xs : List α}
    (hstops : .mark .comma ∉ stops ∧ .mark .closeAngle ∉ stops)
    (hstart : ∀ y r s, tokens y ++ r ≠ .mark .closeAngle :: s)
    (hxs : ∀ x ∈ xs, Determined tokens stops x) :
    Determined (fun xs : List α => angled (xs.map tokens)) [.mark .openAngle] xs := by
  intro ys r s hr hs h
  cases xs with
  | nil =>
      cases ys with
      | nil => exact ⟨rfl, h⟩
      | cons y ys =>
          exact absurd h (hr.ne_cons List.mem_cons_self)
  | cons x xs =>
      cases ys with
      | nil =>
          exact absurd h.symm (hs.ne_cons List.mem_cons_self)
      | cons y ys =>
          exact delimited_determined hstops (by decide) hstart hxs (y :: ys) r s
            (hr.mono (by simp)) (hs.mono (by simp)) (by simpa [angled] using h)

end Lists

theorem brackets_determined (count : Nat) :
    Determined brackets [.mark .openBracket] count := by
  intro other r s hr hs h
  have hclose : ∀ u ∈ List.replicate count (),
      Determined (fun _ : Unit => [Token.mark .closeBracket]) [] u := by
    rintro _ - _ r s - - h
    exact ⟨rfl, List.append_cancel_left h⟩
  obtain ⟨hunits, hrest⟩ := followed_determined List.not_mem_nil hclose
    (List.replicate other ()) r s hr hs (by simpa [brackets] using h)
  exact ⟨by simpa using congrArg List.length hunits, hrest⟩

theorem questionMark_determined (isOptional : Bool) :
    Determined questionMark [.mark .question] isOptional := by
  intro other r s hr hs h
  cases isOptional with
  | false =>
      cases other with
      | false => exact ⟨rfl, h⟩
      | true => exact absurd h (hr.ne_cons List.mem_cons_self)
  | true =>
      cases other with
      | false => exact absurd h.symm (hs.ne_cons List.mem_cons_self)
      | true => exact ⟨rfl, List.append_cancel_left h⟩

end Ambient.TypeGrammar
