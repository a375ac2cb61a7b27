import Ambient.Declaration.Basic
import Ambient.Text.Lines
import Ambient.TypeText

namespace Ambient

/-!
# The layout of declarations

A declaration is written as its comments followed by its own text. Children are
indented one step inside their parent, line by line, so nesting adds up.
-/

/-- How declarations are written. -/
structure Layout where
  /-- One step of indentation. -/
  step : String := "  "
  /-- What stands in front of every declarator after the first. -/
  declaratorStep : String := "  "
  suppressComments : Bool := false
  /-- Mark the untyped parameters at the end of a list as optional. -/
  markUnspecified : Bool := false
  /-- Write the children of a module without the module around them. -/
  suppressAmbient : Bool := false
deriving DecidableEq, Repr

/-- The text of a comment, if it is of a kind that is written. -/
def Comment.text? (comment : Comment) : Option String :=
  match comment.kind with
  | .line => some ("//" ++ comment.value)
  | .block => some ("/*" ++ comment.value ++ "*/")
  | .unknown => none

/-- Comments on lines of their own, with an empty line before them. -/
def commentBlock (comments : List Comment) : String :=
  match comments.filterMap Comment.text? with
  | [] => ""
  | texts => "\n" ++ "\n".intercalate texts ++ "\n"

/-- A head with a body in braces. -/
def block (head body : String) : String :=
  if body = "" then head ++ " \x7b\n\x7d" else head ++ " \x7b\n" ++ body ++ "\n\x7d"

def staticMark (isStatic : Bool) : String := if isStatic then "static " else ""

/-- `name as other`, or just the name when they are the same. -/
def renamed (name other : String) : String :=
  if name = other then name else name ++ " as " ++ other

/-- A named parameter; `trailing` says that no typed parameter follows it. -/
def Parameter.text (param : Parameter) (trailing : Bool) : String :=
  let inferred := trailing && param.type.isNone && !param.isRest
  (if param.isRest then "..." else "") ++ param.name ++
    optionalMark (param.isOptional || inferred) ++ ": " ++ param.type.getD anyText

namespace Layout

/-- The comments of a declaration, unless comments are left out. -/
def comments (layout : Layout) (comments : List Comment) : String :=
  if layout.suppressComments then "" else commentBlock comments

end Layout

mutual

/-- The pattern of a destructured parameter. -/
def ObjectParameter.pattern (layout : Layout) : ObjectParameter → String
  | ⟨[], _, _⟩ => "\x7b\x7d"
  | ⟨first :: rest, _, _⟩ =>
    "\x7b\n" ++ ",\n".intercalate (DestructuredProperty.patterns layout (first :: rest)) ++ "\n\x7d"

def DestructuredProperty.patterns (layout : Layout) : List DestructuredProperty → List String
  | [] => []
  | property :: rest =>
    Text.indent layout.step (property.pattern layout) ::
      DestructuredProperty.patterns layout rest

def DestructuredProperty.pattern (layout : Layout) : DestructuredProperty → String
  | ⟨key, none, _⟩ => key
  | ⟨key, some nested, _⟩ => key ++ ": " ++ nested.pattern layout

end

/-- Whether a property is destructured again. -/
def DestructuredProperty.isNested (property : DestructuredProperty) : Bool :=
  property.value.isSome

mutual

/-- Properties are marked as optional at the end of the list, where no nested
pattern follows. -/
def DestructuredProperty.shapeTypes (layout : Layout) : List DestructuredProperty → List String
  | [] => []
  | property :: rest =>
    let inferred := layout.markUnspecified && !(property :: rest).any (·.isNested)
    Text.indent layout.step (property.shapeType layout inferred) ::
      DestructuredProperty.shapeTypes layout rest

def DestructuredProperty.shapeType (layout : Layout) (inferred : Bool) :
    DestructuredProperty → String
  | ⟨key, none, isOptional⟩ =>
    key ++ optionalMark (isOptional || inferred) ++ ": " ++ anyText ++ ";"
  | ⟨key, some nested, isOptional⟩ =>
    key ++ optionalMark (isOptional || inferred) ++ ": " ++ nested.typeText layout ++ ";"

/-- The type of a destructured parameter: its own, or else the one that it has by
its shape. -/
def ObjectParameter.typeText (layout : Layout) : ObjectParameter → String
  | ⟨_, some type, _⟩ => type
  | ⟨[], none, _⟩ => "\x7b\x7d"
  | ⟨first :: rest, none, _⟩ =>
    "\x7b\n" ++ "\n".intercalate (DestructuredProperty.shapeTypes layout (first :: rest)) ++ "\n\x7d"

end

/-- A destructured parameter; `trailing` says that no typed parameter follows. -/
def ObjectParameter.text (layout : Layout) (param : ObjectParameter) (trailing : Bool) : String :=
  param.pattern layout ++ optionalMark (param.isOptional || (trailing && param.type.isNone)) ++
    ": " ++ param.typeText layout

def Param.text (layout : Layout) (trailing : Bool) : Param → String
  | .named param => param.text trailing
  | .object param => param.text layout trailing

/-- The entries of a parameter list. -/
def Param.texts (layout : Layout) : List Param → List String
  | [] => []
  | param :: rest =>
    param.text layout (layout.markUnspecified && !(param :: rest).any Param.isTyped) ::
      Param.texts layout rest

namespace Layout

/-- A parameter list without its parentheses. -/
def params (layout : Layout) (params : List Param) : String :=
  commaList (Param.texts layout params)

/-- `name<T>(params): result` -/
def signature (layout : Layout) (signature : Signature) : String :=
  signature.name.getD "" ++ generics signature.typeParams ++ "(" ++
    layout.params signature.params ++ ")" ++
    match signature.result with
    | some result => ": " ++ result
    | none => ""

/-- A method in an interface. An optional one is written as a property, without
its type parameters. -/
def interfaceMethod (layout : Layout) (signature : Signature) (isStatic isOptional : Bool) :
    String :=
  staticMark isStatic ++
    if isOptional then
      signature.name.getD "" ++ "?: (" ++ layout.params signature.params ++ ") => " ++
        signature.result.getD anyText ++ ";"
    else layout.signature signature ++ ";"

/-- An import from its specifiers' texts, each with a mark that says whether it
stands in braces. -/
def imports (enclosed : Bool) (specifiers : List (Bool × String)) (source : String) : String :=
  let named := commaList ((specifiers.filter (·.1)).map (·.2))
  let bare := (specifiers.filter (!·.1)).map (·.2)
  let braces := "\x7b" ++ named ++ "\x7d"
  let clause :=
    if !enclosed then commaList bare
    else if bare = [] then braces
    else commaList bare ++ ", " ++ braces
  "import " ++ clause ++ " from '" ++ source ++ "';"

def exportList (body : String) (source : Option String) : String :=
  "export \x7b\n" ++ body ++ "\n\x7d" ++
    match source with
    | some source => " from '" ++ source ++ "';"
    | none => ";"

/-- Declarators separated by commas; those without a text are left out. -/
def declarators (layout : Layout) (texts : List String) : String :=
  match texts.filter (· ≠ "") with
  | [] => ""
  | first :: rest => ",\n".intercalate (first :: rest.map (Text.indent layout.declaratorStep))

def interfaceHead (name : String) (bases typeParams : List String) : String :=
  "export interface " ++ name ++ generics typeParams ++
    if bases = [] then "" else " extends " ++ commaList bases

def classHead (name : String) (superName : Option String) (typeParams superArguments : List String)
    (implemented : List String) : String :=
  "class " ++ name ++ generics typeParams ++
    (match superName with
      | some superName => " extends " ++ superName ++ generics superArguments
      | none => "") ++
    if implemented = [] then "" else " implements " ++ commaList implemented

/-- Children one step further in, one after the other. -/
def body (layout : Layout) (separator : String) (texts : List String) : String :=
  separator.intercalate (texts.map (Text.indent layout.step))

end Layout

mutual

/-- A declaration with its comments, at the level of its parent's text. -/
def Declaration.text (layout : Layout) : Declaration → String
  | ⟨comments, form⟩ => layout.comments comments ++ form.text layout

/-- Declarations with their comments. -/
def Declaration.texts (layout : Layout) : List Declaration → List String
  | [] => []
  | ⟨comments, form⟩ :: rest =>
    (layout.comments comments ++ form.text layout) :: Declaration.texts layout rest

/-- Declarations without their comments. -/
def Declaration.bareTexts (layout : Layout) : List Declaration → List String
  | [] => []
  | ⟨_, form⟩ :: rest => form.text layout :: Declaration.bareTexts layout rest

/-- Import specifiers, each marked as to whether it stands in braces. -/
def Declaration.specifierTexts (layout : Layout) : List Declaration → List (Bool × String)
  | [] => []
  | ⟨comments, form⟩ :: rest =>
    (form.isNamedSpecifier, layout.comments comments ++ form.text layout) ::
      Declaration.specifierTexts layout rest

/-- A declaration's own text. The comments of an exported declaration stand
above `export`; an interface brings its own. -/
def DeclarationForm.text (layout : Layout) : DeclarationForm → String
  | .module name children =>
    if layout.suppressAmbient then "\n".intercalate (Declaration.texts layout children)
    else
      block ("declare module '" ++ name ++ "'")
        (layout.body "\n" (Declaration.texts layout children))
  | .effectImport source => "import '" ++ source ++ "';"
  | .imports enclosed specifiers source =>
    Layout.imports enclosed (Declaration.specifierTexts layout specifiers) source
  | .importSpecifier imported bound => renamed imported bound
  | .wholeSpecifier bound => bound
  | .allSpecifier bound => "* as " ++ bound
  | .exportAll source => "export * from '" ++ source ++ "';"
  | .exported ⟨comments, form⟩ =>
    layout.comments comments ++ (if form.isInterface then "" else "export ") ++
      form.text layout ++ (if form.endsInBrace then "" else ";")
  | .exportList specifiers source =>
    Layout.exportList (layout.body ",\n" (Declaration.texts layout specifiers)) source
  | .exportSpecifier exported bound => renamed (bound.getD exported) exported
  | .variables keyword declarators =>
    keyword ++ " " ++ layout.declarators (Declaration.texts layout declarators)
  | .declarator name type => name ++ ": " ++ type
  | .function signature => "function " ++ layout.signature signature
  | .interfaceMethod signature isStatic isOptional =>
    layout.interfaceMethod signature isStatic isOptional
  | .interfaceCall signature => layout.signature signature ++ ";"
  | .classMethod signature isStatic => staticMark isStatic ++ layout.signature signature ++ ";"
  | .classConstructor params => "constructor(" ++ layout.params params ++ ");"
  | .interface name members bases typeParams =>
    block (Layout.interfaceHead name bases typeParams)
      (layout.body "\n" (Declaration.texts layout members))
  | .interfaceProperty name type isStatic isOptional =>
    staticMark isStatic ++ name ++ optionalMark isOptional ++ ": " ++ type ++ ";"
  | .interfaceIndexer name keyType valueType isStatic =>
    staticMark isStatic ++ "[" ++ name ++ ": " ++ keyType ++ "]: " ++ valueType ++ ";"
  | .classes name superName members typeParams superArguments implemented =>
    block
      (Layout.classHead name superName typeParams superArguments
        (Declaration.bareTexts layout implemented))
      (layout.body "\n" (Declaration.texts layout members))
  | .implemented name arguments => name ++ generics arguments
  | .classProperty name type isStatic => staticMark isStatic ++ name ++ ": " ++ type ++ ";"

end

namespace Declaration

/-- A declaration at a level of indentation. -/
def render (layout : Layout) (level : Nat) (declaration : Declaration) : String :=
  Text.indent (Text.repeated layout.step level) (declaration.text layout)

/-- A module as a whole document, which ends in a newline. -/
def document (layout : Layout) (declaration : Declaration) : String :=
  declaration.text layout ++ "\n"

theorem texts_eq_map (layout : Layout) (declarations : List Declaration) :
    texts layout declarations = declarations.map (text layout) := by
  induction declarations with
  | nil => rfl
  | cons first rest ih =>
    obtain ⟨comments, form⟩ := first
    simp [texts, text, ih]

theorem bareTexts_eq_map (layout : Layout) (declarations : List Declaration) :
    bareTexts layout declarations = declarations.map fun d => d.form.text layout := by
  induction declarations with
  | nil => rfl
  | cons first rest ih =>
    obtain ⟨comments, form⟩ := first
    simp [bareTexts, ih]

@[simp] theorem render_zero (layout : Layout) (declaration : Declaration) :
    declaration.render layout 0 = declaration.text layout := by
  simp [render]

end Declaration

end Ambient
