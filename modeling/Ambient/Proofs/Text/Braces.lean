import Ambient.Proofs.Text.Lines
import Ambient.Text.Blank

namespace Ambient.Text

/-!
# Braces and indentation

How many braces are open behind a text, and the texts whose lines are indented by one
step for each brace that is open. Such a text stays one when it is indented inside a
pair of braces.
-/

/-- How many braces are open behind a text, if `n` are open before it. There is no
answer if a brace is closed that has not been opened. -/
def openBraces? : Nat → List Char → Option Nat
  | n, [] => some n
  | n, c :: cs =>
    if c = '{' then openBraces? (n + 1) cs
    else if c = '}' then
      match n with
      | 0 => none
      | k + 1 => openBraces? k cs
    else openBraces? n cs

theorem openBraces?_cons_of_ne {c : Char} (hopen : c ≠ '{') (hclose : c ≠ '}') (n : Nat)
    (cs : List Char) : openBraces? n (c :: cs) = openBraces? n cs := by
  simp [openBraces?, hopen, hclose]

theorem openBraces?_append (n : Nat) (a b : List Char) :
    openBraces? n (a ++ b) = (openBraces? n a).bind (openBraces? · b) := by
  fun_induction openBraces? n a with
  | case1 n => rfl
  | case2 n cs ih => simpa [openBraces?] using ih
  | case3 cs => simp [openBraces?]
  | case4 cs k hne ih => simpa [openBraces?] using ih
  | case5 n c cs hopen hclose ih => simpa [openBraces?, hopen, hclose] using ih

theorem openBraces?_add {n m : Nat} {cs : List Char} (h : openBraces? n cs = some m) (k : Nat) :
    openBraces? (n + k) cs = some (m + k) := by
  fun_induction openBraces? n cs with
  | case1 n =>
      cases h
      rfl
  | case2 n cs ih =>
      have hshift : n + k + 1 = n + 1 + k := by omega
      simpa [openBraces?, hshift] using ih h
  | case3 cs => cases h
  | case4 cs j hne ih =>
      have hshift : j + 1 + k = j + k + 1 := by omega
      simpa [openBraces?, hshift] using ih h
  | case5 n c cs hopen hclose ih => simpa [openBraces?, hopen, hclose] using ih h

/-- A text on one line that closes the braces it opens. -/
structure IsInline (text : String) : Prop where
  noNewline : '\n' ∉ text.toList
  balanced : openBraces? 0 text.toList = some 0

instance (text : String) : Decidable (IsInline text) :=
  decidable_of_iff ('\n' ∉ text.toList ∧ openBraces? 0 text.toList = some 0)
    ⟨fun h => ⟨h.1, h.2⟩, fun h => ⟨h.noNewline, h.balanced⟩⟩

theorem IsInline.append {a b : String} (ha : IsInline a) (hb : IsInline b) :
    IsInline (a ++ b) where
  noNewline := by simp [ha.noNewline, hb.noNewline]
  balanced := by simp [openBraces?_append, ha.balanced, hb.balanced]

theorem isInline_of_forall {text : String}
    (h : ∀ c ∈ text.toList, c ≠ '\n' ∧ c ≠ '{' ∧ c ≠ '}') : IsInline text where
  noNewline hmem := (h _ hmem).1 rfl
  balanced := by
    generalize text.toList = cs at h
    induction cs with
    | nil => rfl
    | cons c cs ih =>
        obtain ⟨-, hopen, hclose⟩ := h c List.mem_cons_self
        rw [openBraces?_cons_of_ne hopen hclose]
        exact ih fun d hd => h d (List.mem_cons_of_mem c hd)

theorem IsInline.intercalate {separator : String} (hseparator : IsInline separator)
    {texts : List String} (h : ∀ text ∈ texts, IsInline text) :
    IsInline (separator.intercalate texts) := by
  induction texts with
  | nil =>
      rw [String.intercalate_nil]
      decide
  | cons text texts ih =>
      cases texts with
      | nil => simpa using h text List.mem_cons_self
      | cons next texts =>
          rw [String.intercalate_cons_cons]
          have hrest := ih fun t ht => h t (List.mem_cons_of_mem text ht)
          exact ((h text List.mem_cons_self).append hseparator).append hrest

theorem IsInline.braces {text : String} (h : IsInline text) :
    IsInline ("\x7b" ++ text ++ "\x7d") where
  noNewline := by simp [h.noNewline]
  balanced := by
    have hinside : openBraces? 1 text.toList = some 1 := openBraces?_add h.balanced 1
    simp [openBraces?_append, openBraces?, hinside]

theorem IsInline.indent {text : String} (h : IsInline text) (step : String) :
    Text.indent step text = step ++ text := by
  rw [Text.indent, flatMap_indentChar_of_no_newline h.noNewline, String.ofList_toList]

/-- A text that may stand at the start of a line whose indentation the open braces
say. -/
def Leads (text : String) : Prop := ∀ c ∈ text.toList.head?, isBlank c = false ∧ c ≠ '}'

/-- What stands behind a newline where `n` braces are open: as many steps, one less
before a closing brace, and some more in front of what does not begin with a blank. -/
def StartsLine (extra n : Nat) (cs : List Char) : Prop :=
  ∃ depth c rest, cs = List.replicate (2 * (depth + extra)) ' ' ++ c :: rest ∧
    (c = '\n' ∨ isBlank c = false) ∧ n = depth + if c = '}' then 1 else 0

/-- From `n` open braces to `m`, every line but the first is indented by one step for
each open brace and some more. -/
inductive Laid (extra : Nat) : Nat → List Char → Nat → Prop
  | nil (n : Nat) : Laid extra n [] n
  | newline {n m : Nat} {cs : List Char} (start : StartsLine extra n cs)
      (rest : Laid extra n cs m) : Laid extra n ('\n' :: cs) m
  | opening {n m : Nat} {cs : List Char} (rest : Laid extra (n + 1) cs m) :
      Laid extra n ('{' :: cs) m
  | closing {n m : Nat} {cs : List Char} (rest : Laid extra n cs m) :
      Laid extra (n + 1) ('}' :: cs) m
  | other {n m : Nat} {c : Char} {cs : List Char} (noNewline : c ≠ '\n') (noOpening : c ≠ '{')
      (noClosing : c ≠ '}') (rest : Laid extra n cs m) : Laid extra n (c :: cs) m

theorem StartsLine.append {extra n : Nat} {a : List Char} (h : StartsLine extra n a)
    (b : List Char) : StartsLine extra n (a ++ b) := by
  obtain ⟨depth, c, rest, rfl, hc, hn⟩ := h
  exact ⟨depth, c, rest ++ b, by simp, hc, hn⟩

theorem StartsLine.indent {extra n : Nat} {cs : List Char} (h : StartsLine extra n cs) :
    StartsLine extra (n + 1) (' ' :: ' ' :: cs.flatMap (indentChar [' ', ' '])) := by
  obtain ⟨depth, c, rest, rfl, hc, hn⟩ := h
  have hblanks : ∀ count, (List.replicate count ' ').flatMap (indentChar [' ', ' ']) =
      List.replicate count ' ' := by
    intro count
    induction count with
    | zero => rfl
    | succ count ih => simp [List.replicate_succ, ih, indentChar]
  obtain ⟨after, hafter⟩ : ∃ after, indentChar [' ', ' '] c = c :: after := by
    by_cases hnewline : c = '\n' <;> simp [indentChar, hnewline]
  refine ⟨depth + 1, c, after ++ rest.flatMap (indentChar [' ', ' ']), ?_, hc, by omega⟩
  have hcount : 2 * (depth + 1 + extra) = 2 * (depth + extra) + 1 + 1 := by omega
  rw [List.flatMap_append, hblanks, List.flatMap_cons, hafter, hcount, List.replicate_succ,
    List.replicate_succ]
  simp

namespace Laid

variable {extra n k m : Nat} {a b cs : List Char}

theorem append (ha : Laid extra n a k) (hb : Laid extra k b m) : Laid extra n (a ++ b) m := by
  induction ha with
  | nil => exact hb
  | newline start _ ih => exact .newline (start.append b) (ih hb)
  | opening _ ih => exact .opening (ih hb)
  | closing _ ih => exact .closing (ih hb)
  | other noNewline noOpening noClosing _ ih =>
      exact .other noNewline noOpening noClosing (ih hb)

theorem indent (h : Laid extra n cs m) :
    Laid extra (n + 1) (cs.flatMap (indentChar [' ', ' '])) (m + 1) := by
  have hblank : ∀ {n m : Nat} {cs : List Char}, Laid extra n cs m → Laid extra n (' ' :: cs) m :=
    fun h => .other (by decide) (by decide) (by decide) h
  induction h with
  | nil n => exact .nil (n + 1)
  | newline start _ ih => exact .newline start.indent (hblank (hblank ih))
  | opening _ ih => exact .opening ih
  | closing _ ih => exact .closing ih
  | @other n m c cs noNewline noOpening noClosing _ ih =>
      have hchar : indentChar [' ', ' '] c = [c] := by simp [indentChar, noNewline]
      rw [List.flatMap_cons, hchar]
      exact .other noNewline noOpening noClosing ih

theorem of_noNewline (hnewline : '\n' ∉ cs) (h : openBraces? n cs = some m) :
    Laid extra n cs m := by
  fun_induction openBraces? n cs with
  | case1 n =>
      cases h
      exact .nil _
  | case2 n cs ih => exact .opening (ih (fun hmem => hnewline (List.mem_cons_of_mem _ hmem)) h)
  | case3 cs => cases h
  | case4 cs k hne ih => exact .closing (ih (fun hmem => hnewline (List.mem_cons_of_mem _ hmem)) h)
  | case5 n c cs hopen hclose ih =>
      have hc : c ≠ '\n' := fun hc => hnewline (hc ▸ List.mem_cons_self)
      exact .other hc hopen hclose (ih (fun hmem => hnewline (List.mem_cons_of_mem _ hmem)) h)

/-- One of several indented texts inside braces, with what follows it. -/
theorem entry {text : String} (h : Laid 0 0 text.toList 0) (hleads : Leads text) {c : Char}
    (hc : c = '\n' ∨ isBlank c = false) (hclosing : c ≠ '}') (hrest : Laid 0 1 (c :: cs) m) :
    Laid 0 1 ('\n' :: ((Text.indent "  " text).toList ++ c :: cs)) m := by
  have hindented : (Text.indent "  " text).toList =
      ' ' :: ' ' :: text.toList.flatMap (indentChar [' ', ' ']) := by
    simp [toList_indent]
  have hblank : ∀ {cs : List Char}, Laid 0 1 cs m → Laid 0 1 (' ' :: cs) m :=
    fun h => .other (by decide) (by decide) (by decide) h
  have hstart : StartsLine 0 1 ((Text.indent "  " text).toList ++ c :: cs) := by
    rw [hindented]
    cases htext : text.toList with
    | nil => exact ⟨1, c, cs, rfl, hc, by simp [hclosing]⟩
    | cons first rest =>
        obtain ⟨hfirst, hfirst'⟩ := hleads first (by simp [htext])
        have hfirst'' : first ≠ '\n' := by
          rintro rfl
          exact absurd hfirst (by decide)
        refine ⟨1, first, rest.flatMap (indentChar [' ', ' ']) ++ c :: cs, ?_, .inr hfirst,
          by simp [hfirst']⟩
        simp [indentChar, hfirst'']
  refine .newline hstart ?_
  rw [hindented]
  exact hblank (hblank (h.indent.append hrest))

end Laid

/-- Every line but the first is indented by one step for each open brace and some
more. -/
def IsLaid (extra : Nat) (text : String) : Prop := Laid extra 0 text.toList 0

variable {extra : Nat}

theorem IsInline.isLaid {text : String} (h : IsInline text) : IsLaid extra text :=
  .of_noNewline h.noNewline h.balanced

namespace IsLaid

theorem append {a b : String} (ha : IsLaid extra a) (hb : IsLaid extra b) :
    IsLaid extra (a ++ b) := by
  unfold IsLaid at *
  rw [String.toList_append]
  exact ha.append hb

theorem intercalate {separator : String} (hseparator : IsInline separator) {texts : List String}
    (h : ∀ text ∈ texts, IsLaid extra text) : IsLaid extra (separator.intercalate texts) := by
  induction texts with
  | nil =>
      rw [String.intercalate_nil]
      exact .nil 0
  | cons text texts ih =>
      cases texts with
      | nil => simpa using h text List.mem_cons_self
      | cons next texts =>
          rw [String.intercalate_cons_cons]
          have hrest := ih fun t ht => h t (List.mem_cons_of_mem text ht)
          exact ((h text List.mem_cons_self).append hseparator.isLaid).append hrest

/-- Texts on lines of their own inside braces, with or without commas between them. -/
theorem braces {separator : String} (hseparator : separator = "\n" ∨ separator = ",\n")
    {texts : List String} (hne : texts ≠ [])
    (h : ∀ text ∈ texts, IsLaid 0 text ∧ Leads text) :
    IsLaid 0 ("\x7b\n" ++ separator.intercalate (texts.map (Text.indent "  ")) ++ "\n\x7d") := by
  have hclose : Laid 0 1 ['\n', '}'] 0 :=
    .newline ⟨0, '}', [], rfl, .inr (by decide), by simp⟩ (.closing (.nil 0))
  have hentries : Laid 0 1 ('\n' ::
      ((separator.intercalate (texts.map (Text.indent "  "))).toList ++ ['\n', '}'])) 0 := by
    induction texts with
    | nil => exact absurd rfl hne
    | cons text texts ih =>
        obtain ⟨hlaid, hleads⟩ := h text List.mem_cons_self
        -- What follows a text starts a new line or, with a comma, ends this one.
        cases texts with
        | nil => simpa using Laid.entry hlaid hleads (.inl rfl) (by decide) hclose
        | cons next texts =>
            have hrest := ih (by simp) fun t ht => h t (List.mem_cons_of_mem text ht)
            have hnext : ∃ c cs, separator.toList ++
                ((separator.intercalate ((next :: texts).map (Text.indent "  "))).toList ++
                  ['\n', '}']) = c :: cs ∧ (c = '\n' ∨ isBlank c = false) ∧ c ≠ '}' ∧
                  Laid 0 1 (c :: cs) 0 := by
              rcases hseparator with rfl | rfl
              · exact ⟨_, _, rfl, .inl rfl, by decide, hrest⟩
              · exact ⟨_, _, rfl, .inr (by decide), by decide,
                  .other (by decide) (by decide) (by decide) hrest⟩
            obtain ⟨c, cs, hcs, hc, hclosing, hlaidRest⟩ := hnext
            have hentry := Laid.entry hlaid hleads hc hclosing hlaidRest
            rw [← hcs] at hentry
            simpa [String.intercalate_cons_cons] using hentry
  unfold IsLaid
  simpa using Laid.opening hentries

end IsLaid

namespace Leads

theorem append {a b : String} (ha : Leads a) (hb : Leads b) : Leads (a ++ b) := by
  intro c hc
  cases hchars : a.toList with
  | nil => exact hb c (by simpa [hchars] using hc)
  | cons first rest => exact ha c (by simpa [hchars] using hc)

end Leads

/-- A text that leads whatever comes behind it. -/
structure Heads (text : String) : Prop where
  leads : Leads text
  ne_empty : text ≠ ""

namespace Heads

theorem append {a : String} (ha : Heads a) (b : String) : Heads (a ++ b) where
  leads c hc := by
    obtain ⟨first, rest, hchars⟩ :=
      List.exists_cons_of_ne_nil (l := a.toList) (by simpa using ha.ne_empty)
    exact ha.leads c (by simpa [hchars] using hc)
  ne_empty h := ha.ne_empty (String.append_eq_empty_iff.mp h).1

end Heads

theorem Leads.heads_append {a b : String} (ha : Leads a) (hb : Heads b) : Heads (a ++ b) where
  leads := ha.append hb.leads
  ne_empty h := hb.ne_empty (String.append_eq_empty_iff.mp h).2

/-- A text on one line that may stand at the start of a line. -/
structure IsWord (text : String) : Prop where
  isInline : IsInline text
  leads : Leads text

instance (text : String) : Decidable (Leads text) :=
  decidable_of_iff (text.toList.head?.all fun c => !isBlank c && c != '}')
    (by cases h : text.toList.head? <;> simp [Leads, h])

instance (text : String) : Decidable (IsWord text) :=
  decidable_of_iff (IsInline text ∧ Leads text) ⟨fun h => ⟨h.1, h.2⟩, fun h => ⟨h.1, h.2⟩⟩

theorem IsWord.append {a b : String} (ha : IsWord a) (hb : IsWord b) : IsWord (a ++ b) :=
  ⟨ha.isInline.append hb.isInline, ha.leads.append hb.leads⟩

/-- A text with its lines indented by its braces that leads whatever comes behind it. -/
structure Stands (text : String) : Prop where
  laid : IsLaid 0 text
  heads : Heads text

theorem Stands.append {a b : String} (ha : Stands a) (hb : IsLaid 0 b) : Stands (a ++ b) :=
  ⟨ha.laid.append hb, ha.heads.append b⟩

namespace IsWord

variable {a b : String}

theorem stands (h : IsWord a) (hne : a ≠ "") : Stands a := ⟨h.isInline.isLaid, h.leads, hne⟩

theorem stands_append (ha : IsWord a) (hb : Stands b) : Stands (a ++ b) :=
  ⟨ha.isInline.isLaid.append hb.laid, ha.leads.heads_append hb.heads⟩

end IsWord

end Ambient.Text
