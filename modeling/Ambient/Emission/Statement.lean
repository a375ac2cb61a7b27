import Ambient.Emission.Members

namespace Ambient

/-!
# Statements as declarations

A statement becomes a declaration, or it is left out and the reason is noted.
Only a type that cannot be written is an error.
-/

/-- Where to import from: a path next to the module is a path in its package. -/
def resolveSource (root source : String) : String :=
  match source.toList with
  | '.' :: '/' :: rest => root ++ String.ofList ('/' :: rest)
  | _ => source

namespace ImportSpecifier

/-- A specifier of an import, unless its kind is not known. -/
def declaration : ImportSpecifier → Traced (Option Declaration)
  | .named origin imported bound =>
    return some ⟨origin.comments, .importSpecifier imported.name bound.name⟩
  | .whole origin bound => return some ⟨origin.comments, .wholeSpecifier bound.name⟩
  | .all origin bound => return some ⟨origin.comments, .allSpecifier bound.name⟩
  | .unsupported kind => Traced.leaveOut (.importSpecifierOmitted kind)

end ImportSpecifier

/-- An import. Specifiers in braces come after the others; without any specifier
a module is imported for its effects. -/
def ImportDeclaration.declaration (root : String) (d : ImportDeclaration) :
    Traced Declaration := do
  let source := resolveSource root d.source.value
  let specifiers ← Traced.keep ImportSpecifier.declaration d.specifiers
  let named := specifiers.filter (·.form.isNamedSpecifier)
  let bare := specifiers.filter (!·.form.isNamedSpecifier)
  let form : DeclarationForm :=
    if specifiers.isEmpty then .effectImport source
    else .imports (!named.isEmpty) (bare ++ named) source
  return ⟨d.origin.comments, form⟩

/-- A base of an interface with its type arguments. -/
def InterfaceBase.text (base : InterfaceBase) : Written String := do
  let arguments ← FlowType.texts base.arguments
  return (← base.id.text) ++ generics arguments

/-- An interface that a class implements. -/
def Implemented.declaration (implemented : Implemented) : Written Declaration := do
  let arguments ← FlowType.texts implemented.arguments
  return ⟨implemented.origin.comments, .implemented implemented.id.name arguments⟩

/-- Each part of a list that has to be written. -/
def Written.each {α β : Type} (f : α → Written β) : List α → Written (List β)
  | [] => .ok []
  | a :: rest => do
    let b ← f a
    let others ← Written.each f rest
    return b :: others

namespace Options

/-- A specifier of an export, which is left out by either of its names. -/
def exportSpecifier (options : Options) : ExportSpecifier → Traced (Option Declaration)
  | .unsupported kind => Traced.leaveOut (.exportSpecifierOmitted kind)
  | .named origin bound exported => do
    if ← options.isExcluded exported.name then return none
    if ← options.isExcluded bound.name then return none
    return some ⟨origin.comments, .exportSpecifier exported.name (some bound.name)⟩

/-- An export of names. Without any specifier it is left out. -/
def exportList (options : Options) (root : String) (origin : Origin)
    (specifiers : List ExportSpecifier) (source : Option StringLiteral) :
    Traced (Option Declaration) := do
  let specifiers ← Traced.keep options.exportSpecifier specifiers
  if specifiers.isEmpty then Traced.leaveOut .emptyExport
  else
    let source := source.map fun literal => resolveSource root literal.value
    return some ⟨origin.comments, .exportList specifiers source⟩

def declarator (options : Options) (declarator : Declarator) : Traced (Option Declaration) :=
  match declarator.id with
  | .identifier id => do
    if ← options.isExcluded id.name then return none
    let type ← FlowType.textOrAny id.type
    return some ⟨declarator.origin.comments, .declarator id.name type⟩
  | _ => Traced.leaveOut .destructuredDeclaratorOmitted

/-- A declaration of variables. Without any declarator it is left out. -/
def variableList (options : Options) (d : VariableDeclaration) : Traced (Option Declaration) := do
  let declarators ← Traced.keep options.declarator d.declarators
  if declarators.isEmpty then Traced.leaveOut (.emptyVariables d.keyword)
  else return some ⟨d.origin.comments, .variables d.keyword declarators⟩

def function (options : Options) (d : FunctionDeclaration) : Traced (Option Declaration) :=
  match d.id with
  | none => Traced.leaveOut .anonymousFunctionOmitted
  | some id => do
    if ← options.isExcluded id.name then return none
    let some params ← Pattern.params d.params | Traced.leaveOut (.functionOmitted id.name)
    let result ← FlowType.text? d.result
    let typeParams ← TypeParam.texts d.typeParams
    return some ⟨d.origin.decoratedComments d.decorators,
      .function ⟨some id.name, params, result, typeParams⟩⟩

/-- A class with the name of what it extends. -/
def classBody (options : Options) (d : ClassDeclaration) (name : String)
    (superName : Option String) : Traced (Option Declaration) := do
  let members ← Traced.keep options.classMember d.members
  if members.isEmpty && options.ignoreEmptyClasses then Traced.leaveOut (.emptyClass name)
  else
    let implemented ← Written.each Implemented.declaration d.implemented
    let typeParams ← TypeParam.texts d.typeParams
    let superArguments ← FlowType.texts d.superArguments
    return some ⟨d.origin.decoratedComments d.decorators,
      .classes name superName members typeParams superArguments implemented⟩

def classes (options : Options) (d : ClassDeclaration) : Traced (Option Declaration) :=
  match d.id with
  | none => Traced.leaveOut .anonymousClassOmitted
  | some id => do
    if ← options.isExcluded id.name then return none
    match d.superclass with
    | some (.unsupported kind) => Traced.leaveOut (.superclassUnsupported id.name kind)
    | some (.identifier base) => options.classBody d id.name (some base.name)
    | none => options.classBody d id.name none

/-- An interface: its properties, then its index signatures, then its call
signatures. -/
def interface (options : Options) (d : InterfaceDeclaration) : Traced (Option Declaration) := do
  let name := d.id.name
  if ← options.isExcluded name then return none
  let bases ← Written.each InterfaceBase.text d.bases
  let properties ← Traced.keep options.interfaceMember d.body.properties
  let indexers ← Written.each Indexer.declaration d.body.indexers
  let calls ← Written.each CallProperty.declaration d.body.calls
  let members := properties ++ indexers ++ calls
  if options.ignoreEmptyInterfaces && bases.isEmpty && members.isEmpty then
    Traced.leaveOut (.emptyInterface name)
  else
    let typeParams ← TypeParam.texts d.typeParams
    return some ⟨d.origin.comments, .interface name members bases typeParams⟩

/-- The declaration that a statement stands for in a package. -/
def declaration (options : Options) (root : String) : Statement → Traced (Option Declaration)
  | .imports d => do return some (← d.declaration root)
  | .exportAll d =>
    return some ⟨d.origin.comments, .exportAll (resolveSource root d.source.value)⟩
  | .exportNamed origin (some inner) _ _ => do
    let inner ← options.declaration root inner
    return inner.map fun inner => ⟨origin.comments, .exported inner⟩
  | .exportNamed origin none specifiers source =>
    options.exportList root origin specifiers source
  | .variables d => options.variableList d
  | .function d => options.function d
  | .classes d => options.classes d
  | .interface d => options.interface d
  | .exportDefault _ _ => Traced.leaveOut (.statementOmitted "ExportDefaultDeclaration")
  | .unsupported kind _ => Traced.leaveOut (.statementOmitted kind)

end Options

end Ambient
