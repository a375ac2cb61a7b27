namespace Ambient

/-!
# Parts shared by all nodes

Every node of a syntax tree has a place in the source and may have comments in
front of it.
-/

inductive CommentKind
  | line
  | block
  /-- A kind of comment that is not written out. -/
  | unknown
deriving DecidableEq, Repr

/-- A comment, without its delimiters. -/
structure Comment where
  kind : CommentKind
  value : String
deriving DecidableEq, Repr

/-- Where a node stands in the source, and the comments in front of it. -/
structure Origin where
  start : Nat := 0
  stop : Nat := 0
  comments : List Comment := []
deriving DecidableEq, Repr

/-- A string literal, with its text in the source if that is known. -/
structure StringLiteral where
  origin : Origin := {}
  value : String
  raw : Option String := none
deriving DecidableEq, Repr

/-- The text of a literal in the source; without one, the value in single
quotes. -/
def StringLiteral.text (literal : StringLiteral) : String :=
  literal.raw.getD ("'" ++ literal.value ++ "'")

/-- The comments of a node that may be decorated. A node without comments of its
own takes those of its first decorator. -/
def Origin.decoratedComments (origin : Origin) (decorators : List Origin) : List Comment :=
  if origin.comments ≠ [] then origin.comments
  else match decorators with
    | first :: _ => first.comments
    | [] => []

end Ambient
