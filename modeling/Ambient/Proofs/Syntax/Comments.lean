import Ambient.Proofs.Collection.Walk
import Ambient.Proofs.Syntax.Origins

namespace Ambient

/-!
# Programs without comments

The comments of a program stand in front of its statements and of their specifiers, declarators,
members, bases and decorators. They can be taken off there; what becomes of the origins of the
names, patterns and types inside is left open.
-/

/-- A place in the source without the comments in front of it. -/
def Origin.bare (origin : Origin) : Origin := { origin with comments := [] }

@[simp] theorem Origin.comments_bare (origin : Origin) : origin.bare.comments = [] := rfl

@[simp] theorem Origin.decoratedComments_bare (origin : Origin) (decorators : List Origin) :
    origin.bare.decoratedComments (decorators.map Origin.bare) = [] := by
  cases decorators <;> simp [Origin.decoratedComments]

section

variable (f : Origin → Origin)

def ImportSpecifier.bare : ImportSpecifier → ImportSpecifier
  | .named origin imported bound =>
    .named origin.bare (imported.mapOrigins f) (bound.mapOrigins f)
  | .whole origin bound => .whole origin.bare (bound.mapOrigins f)
  | .all origin bound => .all origin.bare (bound.mapOrigins f)
  | .unsupported kind => .unsupported kind

def ImportDeclaration.bare (d : ImportDeclaration) : ImportDeclaration where
  origin := d.origin.bare
  specifiers := d.specifiers.map (ImportSpecifier.bare f)
  source := d.source.mapOrigins f

def ExportAll.bare (d : ExportAll) : ExportAll where
  origin := d.origin.bare
  source := d.source.mapOrigins f

def ExportSpecifier.bare : ExportSpecifier → ExportSpecifier
  | .named origin bound exported =>
    .named origin.bare (bound.mapOrigins f) (exported.mapOrigins f)
  | .unsupported kind => .unsupported kind

def Declarator.bare (d : Declarator) : Declarator where
  origin := d.origin.bare
  id := d.id.mapOrigins f

def VariableDeclaration.bare (d : VariableDeclaration) : VariableDeclaration where
  origin := d.origin.bare
  keyword := d.keyword
  declarators := d.declarators.map (Declarator.bare f)

def FunctionDeclaration.bare (d : FunctionDeclaration) : FunctionDeclaration where
  origin := d.origin.bare
  id := Identifier.mapOrigins? f d.id
  params := d.params.map (Pattern.mapOrigins f)
  result := FlowType.mapOrigins? f d.result
  typeParams := TypeParam.mapAllOrigins f d.typeParams
  decorators := d.decorators.map Origin.bare

def ClassMethod.bare (method : ClassMethod) : ClassMethod :=
  { method with
    origin := method.origin.bare
    key := method.key.mapOrigins f
    params := method.params.map (Pattern.mapOrigins f)
    result := FlowType.mapOrigins? f method.result
    typeParams := TypeParam.mapAllOrigins f method.typeParams
    decorators := method.decorators.map Origin.bare }

def ClassProperty.bare (property : ClassProperty) : ClassProperty :=
  { property with
    origin := property.origin.bare
    key := property.key.mapOrigins f
    type := FlowType.mapOrigins? f property.type
    decorators := property.decorators.map Origin.bare }

def ClassMember.bare : ClassMember → ClassMember
  | .method member => .method (member.bare f)
  | .property member => .property (member.bare f)
  | .unsupported kind => .unsupported kind

def Superclass.mapOrigins : Superclass → Superclass
  | .identifier id => .identifier (id.mapOrigins f)
  | .unsupported kind => .unsupported kind

def Implemented.bare (implemented : Implemented) : Implemented where
  origin := implemented.origin.bare
  id := implemented.id.mapOrigins f
  arguments := FlowType.mapAllOrigins f implemented.arguments

def ClassDeclaration.bare (d : ClassDeclaration) : ClassDeclaration where
  origin := d.origin.bare
  id := Identifier.mapOrigins? f d.id
  superclass := d.superclass.map (Superclass.mapOrigins f)
  superArguments := FlowType.mapAllOrigins f d.superArguments
  typeParams := TypeParam.mapAllOrigins f d.typeParams
  implemented := d.implemented.map (Implemented.bare f)
  members := d.members.map (ClassMember.bare f)
  decorators := d.decorators.map Origin.bare

def InterfaceBase.bare (base : InterfaceBase) : InterfaceBase where
  origin := base.origin.bare
  id := base.id.mapOrigins f
  arguments := FlowType.mapAllOrigins f base.arguments

def ObjectProperty.bare (property : ObjectProperty) : ObjectProperty :=
  { property with
    origin := property.origin.bare
    key := property.key.mapOrigins f
    value := property.value.mapOrigins f }

def ObjectMember.bare : ObjectMember → ObjectMember
  | .property member => .property (member.bare f)
  | .unsupported kind => .unsupported kind

def Indexer.bare (indexer : Indexer) : Indexer :=
  { indexer with
    origin := indexer.origin.bare
    id := Identifier.mapOrigins? f indexer.id
    key := indexer.key.mapOrigins f
    value := indexer.value.mapOrigins f }

def CallProperty.bare (call : CallProperty) : CallProperty :=
  { call with
    origin := call.origin.bare
    value := call.value.mapOrigins f }

/-- The body of an interface without the comments in front of its members. -/
def ObjectType.bare (body : ObjectType) : ObjectType where
  properties := body.properties.map (ObjectMember.bare f)
  indexers := body.indexers.map (Indexer.bare f)
  calls := body.calls.map (CallProperty.bare f)

def InterfaceDeclaration.bare (d : InterfaceDeclaration) : InterfaceDeclaration where
  origin := d.origin.bare
  id := d.id.mapOrigins f
  typeParams := TypeParam.mapAllOrigins f d.typeParams
  bases := d.bases.map (InterfaceBase.bare f)
  body := d.body.bare f

/-- A statement without the comments in front of it and of its parts. -/
def Statement.bare : Statement → Statement
  | .imports d => .imports (d.bare f)
  | .exportAll d => .exportAll (d.bare f)
  | .exportNamed origin (some inner) specifiers source =>
    .exportNamed origin.bare (some inner.bare) (specifiers.map (ExportSpecifier.bare f))
      (source.map (StringLiteral.mapOrigins f))
  | .exportNamed origin none specifiers source =>
    .exportNamed origin.bare none (specifiers.map (ExportSpecifier.bare f))
      (source.map (StringLiteral.mapOrigins f))
  | .exportDefault origin (some inner) => .exportDefault origin.bare (some inner.bare)
  | .exportDefault origin none => .exportDefault origin.bare none
  | .variables d => .variables (d.bare f)
  | .function d => .function (d.bare f)
  | .classes d => .classes (d.bare f)
  | .interface d => .interface (d.bare f)
  | .unsupported kind origin => .unsupported kind origin.bare

/-- A program without the comments in front of its statements and of their parts. -/
def Program.bare (program : Program) : Program where
  body := program.body.map (Statement.bare f)

def Collected.bare (collected : Collected) : Collected where
  imports := collected.imports.map (Statement.bare f)
  interfaces := collected.interfaces.map (Statement.bare f)
  exports := collected.exports.map (Statement.bare f)

@[simp] theorem Collected.statements_bare (collected : Collected) :
    (collected.bare f).statements = collected.statements.map (Statement.bare f) := by
  simp [Collected.statements, Collected.bare]

/-! Comments have no influence on what is listed. -/

theorem Statement.nested_bare (statement : Statement) :
    (statement.bare f).nested = statement.nested.map (Statement.bare f) := by
  cases statement with
  | exportNamed origin declaration specifiers source => cases declaration <;> rfl
  | exportDefault origin declaration => cases declaration <;> rfl
  | _ => rfl

theorem Statement.bucket?_bare (nested : Bool) (statement : Statement) :
    (statement.bare f).bucket? nested = statement.bucket? nested := by
  cases statement with
  | exportNamed origin declaration specifiers source => cases declaration <;> rfl
  | exportDefault origin declaration => cases declaration <;> rfl
  | _ => rfl

theorem Statement.entry_bare (nested : Bool) (statement : Statement) :
    (statement.bare f).entry nested =
      (statement.entry nested).map fun (bucket, listed) => (bucket, listed.bare f) := by
  unfold Statement.entry
  rw [statement.bucket?_bare f]
  cases statement.bucket? nested <;> rfl

theorem Statement.listed_bare (nested : Bool) (statement : Statement) :
    (statement.bare f).listed nested =
      (statement.listed nested).map fun (bucket, listed) => (bucket, listed.bare f) := by
  induction statement using nested_induction generalizing nested with
  | single statement h =>
      have hbare : (statement.bare f).nested = none := by
        rw [statement.nested_bare f, h]
        rfl
      rw [listed_of_not_nested hbare, listed_of_not_nested h, statement.entry_bare f]
  | around statement inner h ih =>
      have hbare : (statement.bare f).nested = some (inner.bare f) := by
        rw [statement.nested_bare f, h]
        rfl
      rw [listed_of_nested hbare, listed_of_nested h, List.map_append, statement.entry_bare f, ih]

theorem Program.listed_bare (program : Program) :
    (program.bare f).listed =
      program.listed.map fun (bucket, listed) => (bucket, listed.bare f) := by
  simp only [Program.listed, Program.bare, List.flatMap_map, List.map_flatMap,
    Statement.listed_bare]

theorem Collected.add_bare (collected : Collected) (entry : Bucket × Statement) :
    (collected.bare f).add (entry.1, entry.2.bare f) = (collected.add entry).bare f := by
  obtain ⟨bucket, statement⟩ := entry
  cases bucket <;> simp [Collected.add, Collected.bare]

theorem Program.collect_bare (program : Program) :
    (program.bare f).collect = program.collect.bare f := by
  have hfold : ∀ (entries : List (Bucket × Statement)) (collected : Collected),
      (entries.map fun entry => (entry.1, entry.2.bare f)).foldl Collected.add (collected.bare f) =
        (entries.foldl Collected.add collected).bare f := by
    intro entries
    induction entries with
    | nil => exact fun _ => rfl
    | cons entry rest ih =>
        intro collected
        rw [List.map_cons, List.foldl_cons, List.foldl_cons, collected.add_bare f, ih]
  rw [Program.collect, Program.listed_bare]
  exact hfold program.listed {}

end

end Ambient
