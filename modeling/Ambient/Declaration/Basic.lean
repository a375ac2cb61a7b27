import Ambient.Syntax.Basic

namespace Ambient

/-!
# Declarations

The tree of a declaration document. Types are texts here; what a declaration
looks like is decided when it is written. Every declaration carries the comments
that stood in front of it in the source.
-/

/-- A named parameter. -/
structure Parameter where
  name : String
  type : Option String := none
  isRest : Bool := false
  isOptional : Bool := false
deriving DecidableEq, Repr

mutual

/-- A destructured parameter. -/
structure ObjectParameter where
  properties : List DestructuredProperty
  type : Option String
  isOptional : Bool

/-- A property of a destructured parameter, which may be destructured again. -/
structure DestructuredProperty where
  key : String
  value : Option ObjectParameter
  isOptional : Bool

end

/-- An entry of a parameter list. -/
inductive Param
  | named (param : Parameter)
  | object (param : ObjectParameter)

namespace Param

/-- Whether a parameter has a type of its own. -/
def isTyped : Param → Bool
  | .named param => param.type.isSome
  | .object param => param.type.isSome

/-- Whether a parameter takes what is left of the arguments. -/
def isRest : Param → Bool
  | .named param => param.isRest
  | .object _ => false

/-- Whether the source made a parameter optional. -/
def isOptional : Param → Bool
  | .named param => param.isOptional
  | .object param => param.isOptional

end Param

/-- What functions, methods and call signatures have in common. Without a result
the type after the parameters is left out. -/
structure Signature where
  name : Option String
  params : List Param
  result : Option String
  typeParams : List String

mutual

/-- A declaration with the comments in front of it. -/
structure Declaration where
  comments : List Comment
  form : DeclarationForm

/-- What is declared. -/
inductive DeclarationForm
  | module (name : String) (children : List Declaration)
  /-- An import for its effects only. -/
  | effectImport (source : String)
  /-- An import; `enclosed` is set when there are names to put in braces. -/
  | imports (enclosed : Bool) (specifiers : List Declaration) (source : String)
  | importSpecifier (imported bound : String)
  | wholeSpecifier (bound : String)
  | allSpecifier (bound : String)
  | exportAll (source : String)
  | exported (declaration : Declaration)
  | exportList (specifiers : List Declaration) (source : Option String)
  | exportSpecifier (exported : String) (bound : Option String)
  | variables (keyword : String) (declarators : List Declaration)
  | declarator (name type : String)
  | function (signature : Signature)
  | interfaceMethod (signature : Signature) (isStatic isOptional : Bool)
  | interfaceCall (signature : Signature)
  | classMethod (signature : Signature) (isStatic : Bool)
  | classConstructor (params : List Param)
  | interface (name : String) (members : List Declaration) (bases typeParams : List String)
  | interfaceProperty (name type : String) (isStatic isOptional : Bool)
  | interfaceIndexer (name keyType valueType : String) (isStatic : Bool)
  | classes (name : String) (superName : Option String) (members : List Declaration)
      (typeParams superArguments : List String) (implemented : List Declaration)
  | implemented (name : String) (arguments : List String)
  | classProperty (name type : String) (isStatic : Bool)

end

namespace DeclarationForm

/-- Whether a form stands in the braces of an import. -/
def isNamedSpecifier : DeclarationForm → Bool
  | .importSpecifier _ _ => true
  | _ => false

def isInterface : DeclarationForm → Bool
  | .interface .. => true
  | _ => false

/-- Whether a form ends in a brace, so that no semicolon follows it. -/
def endsInBrace : DeclarationForm → Bool
  | .classes .. => true
  | .interface .. => true
  | _ => false

end DeclarationForm

end Ambient
