import Ambient.Proofs.Schema.Documents
import Mathlib.Algebra.Group.Nat.Defs

namespace Ambient

/-!
# Nodes of kinds that are not modelled

A node that may be of several kinds is read by its kind, and a kind that there is no
record for stands for itself. So a node of any other kind may stand wherever such a node
is read. The names in specifiers are not read by their kind: they have to be identifiers,
and a document with another node there cannot be read.
-/

/-- The kind of a comment with a name. -/
def CommentKind.ofName (name : String) : CommentKind :=
  if name = "CommentLine" then .line else if name = "CommentBlock" then .block else .unknown

namespace Json

/-- An offset under a key. It is 0 if it is null or not there. -/
inductive TellsOffset : Option Json → Nat → Prop
  | absent : TellsOffset none 0
  | null : TellsOffset (some .null) 0
  | whole (n : Nat) (h : n < 2 ^ 32) : TellsOffset (some (.number (.whole n))) n

inductive TellsComment : Json → Comment → Prop
  | object {entries : List (String × Json)} {name text : String}
      (kind_eq : last? "type" entries = some (.string name))
      (value_eq : last? "value" entries = some (.string text)) :
      TellsComment (.object entries) ⟨.ofName name, text⟩

/-- Comments under a key. There are none if they are null or not there. -/
inductive TellsComments : Option Json → List Comment → Prop
  | absent : TellsComments none []
  | null : TellsComments (some .null) []
  | array {items : List Json} {comments : List Comment}
      (each : List.Forall₂ TellsComment items comments) :
      TellsComments (some (.array items)) comments

/-- The place of a node in the source, and the comments in front of it. -/
structure TellsOrigin (entries : List (String × Json)) (origin : Origin) : Prop where
  start : TellsOffset (last? "start" entries) origin.start
  stop : TellsOffset (last? "end" entries) origin.stop
  comments : TellsComments (last? "leadingComments" entries) origin.comments

end Json

namespace Record

variable {key : String} {entries : List (String × Json)}

theorem map_find?_distinct (key : String) (entries : List (String × Json)) :
    (find? key (Json.distinct (Json.entryParts entries))).map Prod.snd =
      (Json.last? key entries).map Json.asPart := by
  rw [map_find?, Json.get?_distinct, Json.entryParts_eq_map, Json.last?_map]

theorem readField_of_some {β : Type} {mode : Mode β} {value : Json} {b : β}
    (hlast : Json.last? key entries = some value) (hread : mode.read value.asPart = .ok b)
    (base : Nat) :
    readField key mode base (Json.distinct (Json.entryParts entries)) = .ok b := by
  have hfind := map_find?_distinct key entries
  rw [hlast] at hfind
  obtain ⟨⟨i, part⟩, hfound, rfl⟩ := Option.map_eq_some_iff.mp hfind
  rw [readField, hfound]
  simp only [hread, Except.mapError]

theorem find?_of_none (hlast : Json.last? key entries = none) :
    find? key (Json.distinct (Json.entryParts entries)) = none := by
  have hfind := map_find?_distinct key entries
  rw [hlast] at hfind
  exact Option.map_eq_none_iff.mp hfind

theorem readField_of_none {β : Type} {mode : Mode β} {b : β}
    (hlast : Json.last? key entries = none) (habsent : mode.absent? = some b) (base : Nat) :
    readField key mode base (Json.distinct (Json.entryParts entries)) = .ok b := by
  rw [readField, find?_of_none hlast]
  simp only [habsent]

theorem readField_offset {n : Nat} (h : Json.TellsOffset (Json.last? key entries) n) (base : Nat) :
    readField key (.nullable .offset 0) base (Json.distinct (Json.entryParts entries)) = .ok n := by
  cases hlast : Json.last? key entries with
  | none =>
      rw [hlast] at h
      cases h
      exact readField_of_none hlast rfl base
  | some value =>
      rw [hlast] at h
      refine readField_of_some hlast ?_ base
      cases h with
      | null => rfl
      | whole n hn =>
          change (if (0 : Int) ≤ n ∧ (n : Int).toNat < Shape.offsetLimit then _ else _) = _
          rw [if_pos ⟨by omega, by simpa [Shape.offsetLimit] using hn⟩]
          rfl

theorem readName_comment (kept : Bool) (name : String) :
    (Json.string name).readAt (.commentKind kept) = .ok (CommentKind.ofName name) := by
  change Shape.readName [("CommentLine", CommentKind.line), ("CommentBlock", .block),
    ("Unknown", .unknown)] (some .unknown) name = _
  unfold Shape.readName CommentKind.ofName
  by_cases hline : name = "CommentLine"
  · simp [Json.get?, hline]
  · by_cases hblock : name = "CommentBlock"
    · simp [Json.get?, hblock]
    · by_cases hunknown : name = "Unknown"
      · simp [Json.get?, hunknown]
      · simp [Json.get?, hline, hblock, Ne.symm hline, Ne.symm hblock, Ne.symm hunknown]

theorem readAt_comment {value : Json} {comment : Comment} (h : value.TellsComment comment)
    (kept : Bool) : value.readAt (.comment kept) = .ok comment := by
  obtain ⟨hkind, hvalue⟩ := h
  rename_i entries name text
  have hname : (Mode.required (.commentKind kept)).read (Json.string name).asPart =
      .ok (CommentKind.ofName name) := readName_comment kept name
  have hkindField : readField "type" (.required (.commentKind kept)) 0
      (Json.distinct (Json.entryParts entries)) = .ok (CommentKind.ofName name) :=
    readField_of_some hkind hname 0
  have hvalueField : readField "value" (.required .text) 0
      (Json.distinct (Json.entryParts entries)) = .ok text :=
    readField_of_some hvalue rfl 0
  change (Fault.both (Fault.both (.ok Comment.mk) (readField "type" _ 0 _))
    (readField "value" _ 0 _)).mapError _ = _
  rw [hkindField, hvalueField]
  rfl

theorem readList_comments {items : List Json} {comments : List Comment}
    (h : List.Forall₂ Json.TellsComment items comments) (kept : Bool) :
    Shape.readList (.comment kept) (items.map Json.asPart) = .ok comments := by
  induction h with
  | nil => rfl
  | cons first others ih =>
      have hfirst := readAt_comment first kept
      rw [List.map_cons, Shape.readList]
      change (Json.readAt _ _ >>= _) = _
      rw [hfirst, ih]
      rfl

theorem readField_comments {comments : List Comment}
    (h : Json.TellsComments (Json.last? key entries) comments) (kept : Bool) (base : Nat) :
    readField key (.nullable (.list (.comment kept)) []) base
      (Json.distinct (Json.entryParts entries)) = .ok comments := by
  cases hlast : Json.last? key entries with
  | none =>
      rw [hlast] at h
      cases h
      exact readField_of_none hlast rfl base
  | some value =>
      rw [hlast] at h
      refine readField_of_some hlast ?_ base
      cases h with
      | null => rfl
      | @array items comments each =>
          change Shape.readList _ (Json.parts items) = _
          rw [Json.parts_eq_map, readList_comments each kept]

theorem readEntries_origin {origin : Origin} (h : Json.TellsOrigin entries origin) (kept : Bool)
    (base : Nat) :
    readEntries (Json.distinct (Json.entryParts entries)) base (Record.origin kept) =
      .ok origin := by
  change Fault.both (Fault.both (Fault.both (.ok Origin.mk) (readField "start" _ _ _))
    (readField "end" _ _ _)) (readField "leadingComments" _ _ _) = _
  rw [readField_offset h.start, readField_offset h.stop, readField_comments h.comments]
  rfl

theorem readEntries_ofOther {origin : Origin} (h : Json.TellsOrigin entries origin)
    (kind : String) (base : Nat) :
    readEntries (Json.distinct (Json.entryParts entries)) base (Record.ofOther kind) =
      .ok (.unsupported kind origin) := by
  change Fault.both (Fault.both (Fault.both (.ok fun start stop comments =>
    Statement.unsupported kind ⟨start, stop, comments⟩) (readField "start" _ _ _))
    (readField "end" _ _ _)) (readField "leadingComments" _ _ _) = _
  rw [readField_offset h.start, readField_offset h.stop, readField_comments h.comments]
  rfl

end Record

namespace Shape

def kinds {α : Type} : Shape α → List String
  | .tagged cases _ => cases.map Prod.fst
  | _ => []

theorem record?_other {α : Type} {cases : List (String × Record α)} {other : String → Record α}
    {kind : String} (h : kind ∉ (Shape.tagged cases other).kinds) :
    (Shape.tagged cases other).record? (some kind) = some (other kind) := by
  rw [record?, Option.map_some, Json.get?_of_not_mem h, Option.getD_none]

end Shape

namespace Place

/-- What a node of a kind that is not modelled is read as at the places where a node may
be of several kinds. -/
def unsupported? (kind : String) (origin : Origin) : (place : Place) → Option place.Result
  | .statement => some (.unsupported kind origin)
  | .type => some (.unsupported kind)
  | .typeRef => some (.unsupported kind)
  | .objectMember => some (.unsupported kind)
  | .propertyKey => some (.unsupported kind)
  | .pattern => some (.unsupported kind)
  | .patternMember => some (.unsupported kind)
  | .importSpecifier => some (.unsupported kind)
  | .exportSpecifier => some (.unsupported kind)
  | .superclass => some (.unsupported kind)
  | .classMember => some (.unsupported kind)
  | _ => none

/-- A node of another kind stands for itself, whatever else it holds. -/
theorem readAt_unsupported {place : Place} {kind : String} {origin : Origin}
    {result : place.Result} (hresult : place.unsupported? kind origin = some result)
    {entries : List (String × Json)} (hkind : Json.kind? entries = some kind)
    (hother : kind ∉ place.shape.kinds) (horigin : Json.TellsOrigin entries origin) :
    (Json.object entries).readAt place = .ok result := by
  have hread {fields : Record place.Result}
      (hfields : place.shape.record? (some kind) = some fields) :
      (Json.object entries).readAt place = (Record.readEntries
        (Json.distinct (Json.entryParts entries)) 0 fields).mapError (·.error) := by
    refine Shape.read_object ?_
    rw [Json.tag?_distinct, hkind, hfields]
  cases place with
  | statement =>
      cases hresult
      rw [hread (Shape.record?_other hother), Record.readEntries_ofOther horigin]
      rfl
  | propertyKey | typeRef | type | objectMember | pattern | patternMember | importSpecifier
  | exportSpecifier | superclass | classMember =>
      cases hresult
      rw [hread (Shape.record?_other hother)]
      rfl
  | _ => cases hresult

/-- A node without a name is not an identifier. -/
theorem readAt_identifier {entries : List (String × Json)} {origin : Origin}
    (horigin : Json.TellsOrigin entries origin) (hname : Json.last? "name" entries = none)
    (htype : Json.last? "typeAnnotation" entries = none)
    (hoptional : Json.last? "optional" entries = none) :
    (Json.object entries).readAt .identifier = .error (.missingField "name") := by
  -- No other field is wrong, so this is the fault that is reported.
  have hnameField (base : Nat) : Record.readField "name" (.required .text) base
      (Json.distinct (Json.entryParts entries)) =
        .error ⟨base + (Json.distinct (Json.entryParts entries)).length,
          .missingField "name"⟩ := by
    rw [Record.readField, Record.find?_of_none hname]
    rfl
  change (Fault.both (Fault.both (Fault.both (Fault.both (.ok _)
    (Record.readEntries _ _ (Record.origin true))) (Record.readField "name" _ _ _))
    (Record.readField "typeAnnotation" _ _ _)) (Record.readField "optional" _ _ _)).mapError _ = _
  rw [Record.readEntries_origin horigin, hnameField, Record.readField_of_none htype rfl,
    Record.readField_of_none hoptional rfl]
  rfl

/-- The keys that a specifier of a kind has its names under. -/
def specifierNames : Place → String → List String
  | .importSpecifier, "ImportSpecifier" => ["imported", "local"]
  | .importSpecifier, "ImportDefaultSpecifier" => ["local"]
  | .importSpecifier, "ImportNamespaceSpecifier" => ["local"]
  | .exportSpecifier, "ExportSpecifier" => ["local", "exported"]
  | _, _ => []

/-- The names in a specifier are read as identifiers. -/
theorem spot_specifierName {place : Place} {specifier key : String}
    (hname : key ∈ place.specifierNames specifier) {before after : List (String × Json)}
    (hkind : Json.kind? (before ++ after) = some specifier) (hlast : key ∉ after.map Prod.fst) :
    Json.Spot .identifier place fun value => .object (before ++ (key, value) :: after) := by
  have hspot {fields : Record place.Result}
      (hrecord : place.shape.record? (some specifier) = some fields) (hkey : key ≠ "type")
      (hplace : fields.place? key = some .identifier) :
      Json.Spot .identifier place fun value => .object (before ++ (key, value) :: after) :=
    .entry before after hkey hlast (hkind ▸ hrecord) hplace .here
  unfold specifierNames at hname
  split at hname
  next =>
      simp only [List.mem_cons, List.not_mem_nil, or_false] at hname
      rcases hname with rfl | rfl <;> exact hspot rfl (by decide) rfl
  next =>
      cases List.mem_singleton.mp hname
      exact hspot rfl (by decide) rfl
  next =>
      cases List.mem_singleton.mp hname
      exact hspot rfl (by decide) rfl
  next =>
      simp only [List.mem_cons, List.not_mem_nil, or_false] at hname
      rcases hname with rfl | rfl <;> exact hspot rfl (by decide) rfl
  next => cases hname

end Place

/-- If a document can be read, any node in it at a place where nodes of several kinds may
stand can be replaced by a node of a kind that is not modelled: the document can still be
read, that node is read as unsupported, and everything else as before. A name in a
specifier cannot be replaced so: without a `name` it is no identifier, and the document
cannot be read. -/
theorem Program.parse_unmodelled {place : Place} {context : Json → Json}
    (spot : Document.Spot place context) {entries : List (String × Json)} {kind : String}
    {origin : Origin} (hkind : Json.kind? entries = some kind)
    (horigin : Json.TellsOrigin entries origin) :
    (∀ result, place.unsupported? kind origin = some result → kind ∉ place.shape.kinds →
      ∀ node text text' program, node.isNull = false →
        Json.parse text = .ok (context node) → Program.parse text = .ok program →
        Json.parse text' = .ok (context (.object entries)) →
        ∃ f x, Place.Hole place (.list .statement) f ∧ node.readAt place = .ok x ∧
          program = ⟨f x⟩ ∧ Program.parse text' = .ok ⟨f result⟩) ∧
    (∀ specifier key before after, key ∈ place.specifierNames specifier →
      Json.kind? (before ++ after) = some specifier → key ∉ after.map Prod.fst →
      Json.last? "name" entries = none → Json.last? "typeAnnotation" entries = none →
      Json.last? "optional" entries = none →
      ∀ name text text' program, name.isNull = false →
        Json.parse text = .ok (context (.object (before ++ (key, name) :: after))) →
        Program.parse text = .ok program →
        Json.parse text' = .ok (context (.object (before ++ (key, .object entries) :: after))) →
        Program.parse text' = .error (.data (.missingField "name"))) := by
  constructor
  · intro result hresult hother node text text' program hnode htext hprogram htext'
    obtain ⟨f, x, hole, hx, rfl, hothers⟩ := spot.opens hnode (programOf_of_parse htext hprogram)
    have hread := hothers (.object entries) rfl
    rw [Place.readAt_unsupported hresult hkind hother horigin] at hread
    refine ⟨f, x, hole, hx, rfl, ?_⟩
    rw [parse_of_json htext']
    exact congrArg (·.mapError DocumentError.data) hread
  · intro specifier key before after hkey hspecifier hlast hname htype hoptional name text text'
      program hnull htext hprogram htext'
    have hspot := spot.comp (Place.spot_specifierName hkey hspecifier hlast)
    obtain ⟨f, x, -, -, -, hothers⟩ := hspot.opens hnull (programOf_of_parse htext hprogram)
    have hread := hothers (.object entries) rfl
    rw [Place.readAt_identifier horigin hname htype hoptional] at hread
    rw [parse_of_json htext']
    exact congrArg (·.mapError DocumentError.data) hread

/-- The text of a program of one statement. -/
def statementText (statement : String) : String :=
  "\x7b\"type\":\"Program\",\"body\":[" ++ statement ++ "]\x7d"

def statementValue (statement : Json) : Json :=
  .object [("type", .string "Program"), ("body", .array [statement])]

/-- A statement of a modelled kind, and one of another kind in its place. -/
theorem Program.parse_unmodelled_enum :
    ∃ f, Place.Hole .statement (.list .statement) f ∧
      Program.parse (statementText "\x7b\"type\":\"ExportDefaultDeclaration\"\x7d") =
        .ok ⟨f (.exportDefault {} none)⟩ ∧
      Program.parse (statementText "\x7b\"type\":\"EnumDeclaration\",\"start\":9\x7d") =
        .ok ⟨f (.unsupported "EnumDeclaration" ⟨9, 0, []⟩)⟩ := by
  have spot : Document.Spot .statement statementValue :=
    .body [("type", .string "Program")] [] rfl (.item [] [] .here)
  have htext : Json.parse (statementText "\x7b\"type\":\"ExportDefaultDeclaration\"\x7d") =
      .ok (statementValue (.object [("type", .string "ExportDefaultDeclaration")])) := by rfl
  have htext' : Json.parse (statementText "\x7b\"type\":\"EnumDeclaration\",\"start\":9\x7d") =
      .ok (statementValue (.object [("type", .string "EnumDeclaration"),
        ("start", .number (.whole 9))])) := by rfl
  have hnode : (Json.object [("type", .string "ExportDefaultDeclaration")]).readAt .statement =
      .ok (.exportDefault {} none) := by rfl
  have hprogram : ∃ program, Program.parse
      (statementText "\x7b\"type\":\"ExportDefaultDeclaration\"\x7d") = .ok program := by
    rw [Program.parse_of_json htext]
    exact ⟨_, rfl⟩
  obtain ⟨program, hprogram⟩ := hprogram
  have horigin : Json.TellsOrigin [("type", .string "EnumDeclaration"),
      ("start", .number (.whole 9))] ⟨9, 0, []⟩ := ⟨.whole 9 (by decide), .absent, .absent⟩
  obtain ⟨f, x, hole, hx, rfl, hread⟩ := (Program.parse_unmodelled spot rfl horigin).1 _ rfl
    (by decide) _ _ _ program rfl htext hprogram htext'
  cases hnode.symm.trans hx
  exact ⟨f, hole, hprogram, hread⟩

def exportText (exported : String) : String :=
  statementText ("\x7b\"type\":\"ExportNamedDeclaration\",\"specifiers\":[" ++
    "\x7b\"type\":\"ExportSpecifier\",\"local\":\x7b\"type\":\"Identifier\",\"name\":\"b\"\x7d," ++
    "\"exported\":" ++ exported ++ "\x7d]\x7d")

/-- Whether a text cannot be read because a field is missing. -/
def lacksField (field text : String) : Bool :=
  match Program.parse text with
  | .error (.data (.missingField key)) => key == field
  | _ => false

theorem Program.parse_of_lacksField {field text : String} (h : lacksField field text = true) :
    Program.parse text = .error (.data (.missingField field)) := by
  unfold lacksField at h
  split at h
  next key hread => rw [hread, beq_iff_eq.mp h]
  next => cases h

/-- The name of an export may be an identifier. If it is a string literal, as it may be
written, the whole program cannot be read. -/
theorem Program.literal_name_not_read :
    (Program.parse (exportText
        "\x7b\"type\":\"Identifier\",\"name\":\"c\"\x7d")).toOption.isSome = true ∧
      Program.parse (exportText "\x7b\"type\":\"StringLiteral\",\"value\":\"a-b\"\x7d") =
          .error (.data (.missingField "name")) :=
  ⟨by decide +kernel, Program.parse_of_lacksField (by decide +kernel)⟩

end Ambient
