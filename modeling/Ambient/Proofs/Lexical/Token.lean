import Mathlib.Data.List.Forall2
import Ambient.Proofs.Lexical.Literal
import Ambient.Proofs.Lexical.Numeral

namespace Ambient.Lexical

/-!
# Tokens

The text of a type is read as a sequence of words, literals and marks, each as
long as it can be. Texts that are put together are read as their parts, if
every part ends where the next one begins.
-/

inductive Mark
  | bar
  | ampersand
  | openParen
  | closeParen
  | openBracket
  | closeBracket
  | openBrace
  | closeBrace
  | openAngle
  | closeAngle
  | comma
  | colon
  | question
  | dot
  | ellipsis
  | equals
  | arrow
deriving DecidableEq, Repr

inductive Token
  | word (text : String)
  | string (literal : String)
  | number (numeral : String)
  | mark (mark : Mark)
deriving DecidableEq, Repr

def isSpace (c : Char) : Bool := c = ' ' || c = '\t' || isLineEnd c

/-- The mark that begins with a character, and how many of those behind it belong
to the mark. -/
def mark? (c : Char) (rest : List Char) : Option (Mark × Nat) :=
  match c with
  | '|' => some (.bar, 0)
  | '&' => some (.ampersand, 0)
  | '(' => some (.openParen, 0)
  | ')' => some (.closeParen, 0)
  | '[' => some (.openBracket, 0)
  | ']' => some (.closeBracket, 0)
  | '\x7b' => some (.openBrace, 0)
  | '\x7d' => some (.closeBrace, 0)
  | '<' => some (.openAngle, 0)
  | '>' => some (.closeAngle, 0)
  | ',' => some (.comma, 0)
  | ':' => some (.colon, 0)
  | '?' => some (.question, 0)
  | '.' => if ['.', '.'].isPrefixOf rest then some (.ellipsis, 2) else some (.dot, 0)
  | '=' => if ['>'].isPrefixOf rest then some (.arrow, 1) else some (.equals, 0)
  | _ => none

/-- The token that begins with a character, and how many of those behind it belong
to the token. -/
def token? (c : Char) (rest : List Char) : Option (Token × Nat) :=
  if isNameStart c then
    let more := rest.takeWhile isNamePart
    some (.word (String.ofList (c :: more)), more.length)
  else if startsNumeral c rest then
    let count := numeralLength c rest
    let text := String.ofList (c :: rest.take count)
    if isNumeral text then some (.number text, count) else none
  else if c = '\'' ∨ c = '"' then
    match literalLength c rest with
    | none => none
    | some count =>
      let text := String.ofList (c :: rest.take count)
      if isLiteral text then some (.string text, count) else none
  else (mark? c rest).map fun (mark, count) => (.mark mark, count)

/-- The tokens of a text. Between them there may be spaces. -/
def tokens? : List Char → Option (List Token)
  | [] => some []
  | c :: rest =>
    match token? c rest with
    | some (token, count) => (tokens? (rest.drop count)).map (token :: ·)
    | none => if isSpace c then tokens? rest else none
termination_by cs => cs.length
decreasing_by
  all_goals simp only [List.length_drop, List.length_cons]
  all_goals omega

/-- What comes next cannot go on with a name. -/
def EndsName (rest : List Char) : Prop := ∀ c ∈ rest.head?, isNamePart c = false

/-- What comes next cannot go on with a name or a numeral. -/
def EndsWord (rest : List Char) : Prop := ∀ c ∈ rest.head?, ∀ p, isNumeralPart p c = false

/-- A text is read as these tokens wherever a word ends behind it. -/
def Reads (text : String) (tokens : List Token) : Prop :=
  ∀ rest, EndsWord rest → tokens? (text.toList ++ rest) = (tokens? rest).map (tokens ++ ·)

/-- A text is read as these tokens wherever a name ends behind it. -/
def ReadsName (text : String) (tokens : List Token) : Prop :=
  ∀ rest, EndsName rest → tokens? (text.toList ++ rest) = (tokens? rest).map (tokens ++ ·)

/-- Characters are read as these tokens whatever comes behind them. -/
def Closed (cs : List Char) (tokens : List Token) : Prop :=
  ∀ rest, tokens? (cs ++ rest) = (tokens? rest).map (tokens ++ ·)

/-- Characters that a word in front of them ends at. -/
def Separates (cs : List Char) : Prop := ∀ rest, EndsWord (cs ++ rest)

/-- A word in front of a text ends at it, or at what comes behind it. -/
def KeepsApart (text : String) : Prop :=
  ∀ rest, EndsWord rest → EndsWord (text.toList ++ rest)

/-- The tokens of some parts, each but the first with a mark in front of it. -/
def followed (mark : Mark) (parts : List (List Token)) : List Token :=
  parts.flatMap (.mark mark :: ·)

/-- The tokens of some parts with a mark between any two. -/
def separated (mark : Mark) : List (List Token) → List Token
  | [] => []
  | first :: others => first ++ followed mark others

theorem separated_cons_cons (mark : Mark) (first second : List Token)
    (others : List (List Token)) :
    separated mark (first :: second :: others) =
      (first ++ [.mark mark]) ++ separated mark (second :: others) := by
  simp [separated, followed]

/-- Lists that are each joined by a mark are joined to one list. -/
theorem separated_flatMap (mark : Mark) {α : Type} {chain : α → List (List Token)}
    (h : ∀ a, chain a ≠ []) (as : List α) :
    separated mark (as.flatMap chain) =
      separated mark (as.map fun a => separated mark (chain a)) := by
  have hfollowed : ∀ as : List α, followed mark (as.flatMap chain) =
      followed mark (as.map fun a => separated mark (chain a)) := by
    intro as
    induction as with
    | nil => rfl
    | cons a as ih =>
        cases hchain : chain a with
        | nil => exact absurd hchain (h a)
        | cons first others => simp_all [followed, separated]
  cases as with
  | nil => rfl
  | cons a as =>
      cases hchain : chain a with
      | nil => exact absurd hchain (h a)
      | cons first others =>
          have hrest := hfollowed as
          simp_all [followed, separated]

theorem EndsWord.endsName {rest : List Char} (h : EndsWord rest) : EndsName rest := by
  intro c hc
  have hpart := h c hc ' '
  simp only [isNumeralPart, Bool.or_eq_false_iff] at hpart
  exact hpart.1.1

theorem endsWord_nil : EndsWord [] := by
  intro c hc
  cases hc

theorem separates_cons {c : Char} {cs : List Char} (hname : isNamePart c = false)
    (hother : c ≠ '.' ∧ isSign c = false) : Separates (c :: cs) := by
  intro rest d hd p
  cases hd
  simp [isNumeralPart, hname, hother]

theorem tokens?_cons {c : Char} {rest : List Char} {token : Token} {count : Nat}
    (htoken : token? c rest = some (token, count)) :
    tokens? (c :: rest) = (tokens? (rest.drop count)).map (token :: ·) := by
  rw [tokens?, htoken]

/-- A text that is one token is read as that token. -/
theorem tokens?_append {c : Char} {cs rest : List Char} {token : Token}
    (htoken : token? c (cs ++ rest) = some (token, cs.length)) :
    tokens? (c :: cs ++ rest) = (tokens? rest).map ([token] ++ ·) := by
  rw [List.cons_append, tokens?_cons htoken, List.drop_left]
  rfl

theorem readsName {name : String} (h : isName name = true) : ReadsName name [.word name] := by
  intro rest hrest
  unfold isName at h
  cases htext : name.toList with
  | nil => simp [htext] at h
  | cons c cs =>
      simp only [htext, Bool.and_eq_true] at h
      obtain ⟨hstart, hparts⟩ := h
      have htake : (cs ++ rest).takeWhile isNamePart = cs := by
        rw [List.takeWhile_append_of_pos (fun d hd => List.all_eq_true.mp hparts d hd)]
        cases rest with
        | nil => simp
        | cons d rest => rw [List.takeWhile_cons_of_neg (by simp [hrest d rfl]), List.append_nil]
      have htoken : token? c (cs ++ rest) = some (.word name, cs.length) := by
        rw [token?, if_pos hstart, htake]
        simp only [← htext, String.ofList_toList]
      exact tokens?_append htoken

theorem ReadsName.reads {text : String} {tokens : List Token} (h : ReadsName text tokens) :
    Reads text tokens :=
  fun rest hrest => h rest hrest.endsName

theorem reads_name {name : String} (h : isName name = true) : Reads name [.word name] :=
  (readsName h).reads

theorem reads_numeral {text : String} (h : isNumeral text = true) :
    Reads text [.number text] := by
  intro rest hrest
  have hnumeral := h
  unfold isNumeral at h
  cases htext : text.toList with
  | nil => simp [htext] at h
  | cons c cs =>
      simp only [htext, Bool.and_eq_true, decide_eq_true_eq] at h
      obtain ⟨⟨hstart, hlength⟩, -⟩ := h
      have hlength' := numeralLength_append hlength hrest
      have htoken : token? c (cs ++ rest) = some (.number text, cs.length) := by
        rw [token?, if_neg (by simp [isNameStart_eq_false_of_startsNumeral hstart]),
          if_pos (startsNumeral_append hstart rest)]
        simp only [hlength', List.take_left, ← htext, String.ofList_toList, hnumeral, if_true]
      exact tokens?_append htoken

theorem reads_literal {text : String} (h : isLiteral text = true) :
    Reads text [.string text] := by
  intro rest _
  have hliteral := h
  unfold isLiteral literalUnits? at h
  cases htext : text.toList with
  | nil => simp [htext] at h
  | cons c cs =>
      simp only [htext] at h
      split at h
      · next hquote =>
          obtain ⟨hquote, hlength⟩ := hquote
          have hbackslash : c ≠ '\\' := by
            rcases hquote with rfl | rfl
            all_goals decide
          have hname : isNameStart c = false := by
            rcases hquote with rfl | rfl
            all_goals decide
          have hnumeral : startsNumeral c (cs ++ rest) = false := by
            rcases hquote with rfl | rfl
            all_goals rfl
          have hlength' := literalLength_append hbackslash hlength rest
          have htoken : token? c (cs ++ rest) = some (.string text, cs.length) := by
            rw [token?, if_neg (by simp [hname]), if_neg (by simp [hnumeral]), if_pos hquote,
              hlength']
            simp only [List.take_left, ← htext, String.ofList_toList, hliteral, if_true]
          exact tokens?_append htoken
      · cases h

theorem closed_nil : Closed [] [] := by
  intro rest
  simp

theorem closed_space {cs : List Char} {tokens : List Token} (h : Closed cs tokens) :
    Closed (' ' :: cs) tokens := by
  intro rest
  have htoken : token? ' ' (cs ++ rest) = none := rfl
  have hspace : isSpace ' ' = true := rfl
  rw [List.cons_append, tokens?, htoken]
  simp only [hspace, if_true, h rest]

/-- A mark is read at once, together with the rest of what belongs to it. -/
theorem closed_longMark {c : Char} {mark : Mark} (more : List Char) {cs : List Char}
    {tokens : List Token}
    (hmark : ∀ rest, token? c (more ++ cs ++ rest) = some (.mark mark, more.length))
    (h : Closed cs tokens) : Closed (c :: (more ++ cs)) (.mark mark :: tokens) := by
  intro rest
  rw [List.cons_append, tokens?_cons (hmark rest), List.append_assoc, List.drop_left, h rest,
    Option.map_map]
  rfl

theorem closed_mark {c : Char} {mark : Mark} {cs : List Char} {tokens : List Token}
    (hmark : ∀ rest, token? c (cs ++ rest) = some (.mark mark, 0)) (h : Closed cs tokens) :
    Closed (c :: cs) (.mark mark :: tokens) :=
  closed_longMark [] hmark h

/-- Whether a character is a space or a mark of its own, whatever comes next. -/
def isPlain (c : Char) : Bool :=
  c ∈ [' ', '|', '&', '(', ')', '[', ']', '\x7b', '\x7d', '<', '>', ',', ':', '?']

/-- The tokens of such characters. -/
def plainTokens (cs : List Char) : List Token :=
  cs.filterMap fun c => (mark? c []).map fun (mark, _) => .mark mark

theorem closed_plain {cs : List Char} (h : cs.all isPlain = true) :
    Closed cs (plainTokens cs) := by
  induction cs with
  | nil => exact closed_nil
  | cons c cs ih =>
      rw [List.all_cons, Bool.and_eq_true] at h
      obtain ⟨hplain, hall⟩ := h
      simp only [isPlain, List.mem_cons, List.not_mem_nil, or_false, decide_eq_true_eq] at hplain
      rcases hplain with rfl | hplain
      · exact closed_space (ih hall)
      · rcases hplain with rfl | rfl | rfl | rfl | rfl | rfl | rfl | rfl | rfl | rfl | rfl |
          rfl | rfl
        all_goals exact closed_mark (fun _ => rfl) (ih hall)

theorem separates_plain {cs : List Char} (h : cs.head?.any isPlain = true) : Separates cs := by
  cases cs with
  | nil => cases h
  | cons c cs =>
      simp only [List.head?_cons, Option.any_some, isPlain, List.mem_cons, List.not_mem_nil,
        or_false, decide_eq_true_eq] at h
      rcases h with rfl | rfl | rfl | rfl | rfl | rfl | rfl | rfl | rfl | rfl | rfl | rfl | rfl |
        rfl
      all_goals exact separates_cons (by decide) (by decide)

theorem keepsApart_empty : KeepsApart "" := fun _ hrest => hrest

theorem Separates.keepsApart_append {a : String} (h : Separates a.toList) (b : String) :
    KeepsApart (a ++ b) := by
  intro rest _
  rw [String.toList_append, List.append_assoc]
  exact h _

/-- A dot in front of a name is a token of its own. -/
theorem tokens?_dot_name {name : String} (h : isName name = true) (rest : List Char) :
    tokens? ('.' :: (name.toList ++ rest)) =
      (tokens? (name.toList ++ rest)).map (.mark .dot :: ·) := by
  unfold isName at h
  cases htext : name.toList with
  | nil => simp [htext] at h
  | cons c cs =>
      simp only [htext, Bool.and_eq_true] at h
      obtain ⟨hstart, -⟩ := h
      have hdigit : c.isDigit = false := by
        rw [Bool.eq_false_iff]
        intro hdigit
        rw [isNameStart_eq_false_of_isDigit hdigit] at hstart
        cases hstart
      have hdot : c ≠ '.' := by
        rintro rfl
        revert hstart
        decide
      have htoken : token? '.' (c :: cs ++ rest) = some (.mark .dot, 0) := by
        have hname : isNameStart '.' = false := rfl
        simp [token?, hname, startsNumeral, hdigit, mark?, Ne.symm hdot]
      exact tokens?_cons htoken

/-- A name inside of what names refer to. -/
theorem ReadsName.dot {text name : String} {tokens : List Token} (h : ReadsName text tokens)
    (hname : isName name = true) :
    ReadsName (text ++ "." ++ name) (tokens ++ [.mark .dot, .word name]) := by
  intro rest hrest
  have hdot : EndsName ('.' :: (name.toList ++ rest)) := by
    intro c hc
    cases hc
    decide
  have hchars : (text ++ "." ++ name).toList ++ rest =
      text.toList ++ '.' :: (name.toList ++ rest) := by
    simp
  rw [hchars, h _ hdot, tokens?_dot_name hname, readsName hname rest hrest, Option.map_map,
    Option.map_map]
  congr 1
  funext more
  simp

theorem Closed.append {a b : String} {s t : List Token} (ha : Closed a.toList s)
    (hb : Closed b.toList t) : Closed (a ++ b).toList (s ++ t) := by
  intro rest
  rw [String.toList_append, List.append_assoc, ha, hb, Option.map_map]
  congr 1
  funext tokens
  simp

theorem Closed.reads {text : String} {tokens : List Token} (h : Closed text.toList tokens) :
    Reads text tokens :=
  fun rest _ => h rest

theorem reads_empty : Reads "" [] := fun rest _ => closed_nil rest

theorem Closed.append_reads {a b : String} {s t : List Token} (ha : Closed a.toList s)
    (hb : Reads b t) : Reads (a ++ b) (s ++ t) := by
  intro rest hrest
  rw [String.toList_append, List.append_assoc, ha, hb rest hrest, Option.map_map]
  congr 1
  funext tokens
  simp

theorem Reads.append {a b : String} {s t : List Token} (ha : Reads a s) (hb : Reads b t)
    (hends : KeepsApart b) : Reads (a ++ b) (s ++ t) := by
  intro rest hrest
  rw [String.toList_append, List.append_assoc, ha _ (hends rest hrest), hb rest hrest,
    Option.map_map]
  congr 1
  funext tokens
  simp

theorem Reads.append_closed {a b : String} {s t : List Token} (ha : Reads a s)
    (hb : Closed b.toList t) (hends : Separates b.toList) :
    Closed (a ++ b).toList (s ++ t) := by
  intro rest
  rw [String.toList_append, List.append_assoc, ha _ (hends rest), hb, Option.map_map]
  congr 1
  funext tokens
  simp

/-- Texts that are joined by a mark are read one by one. -/
theorem reads_intercalate {separator : String} {mark : Mark}
    (hclosed : Closed separator.toList [.mark mark]) (hends : Separates separator.toList)
    {texts : List String} {parts : List (List Token)} (h : List.Forall₂ Reads texts parts) :
    Reads (separator.intercalate texts) (separated mark parts) := by
  induction h with
  | nil => exact reads_empty
  | cons hfirst hothers ih =>
      cases hothers with
      | nil =>
          rw [String.intercalate_singleton, separated, followed, List.flatMap_nil,
            List.append_nil]
          exact hfirst
      | cons _ _ =>
          rw [String.intercalate_cons_cons, separated_cons_cons]
          exact (hfirst.append_closed hclosed hends).append_reads ih

end Ambient.Lexical
