import Wiring.Declaration
import Wiring.Record.Scalar

/-!
Declarations in documents. The members of a type that name no owner get the type itself before they are read.
-/

namespace Wiring

namespace TypeRef

mutual

def decode : Json → Reading TypeRef
  | .object fields =>
    TypeRef.mk <$> Codec.fieldD "namespace" "" fields <*> Codec.field "name" fields <*>
      decodeArguments fields <*> Codec.fieldD "is_type_parameter" false fields
  | _ => .refuse .recordExpected

def decodeArguments : List (String × Json) → Reading (List TypeRef)
  | [] => .accepted []
  | (name, j) :: r =>
    if name = "arguments" then .under (.field "arguments") (decodeTuple j) else decodeArguments r

def decodeTuple : Json → Reading (List TypeRef)
  | .array items => decodeItems 0 items
  | _ => .refuse .tupleExpected

def decodeItems (start : Nat) : List Json → Reading (List TypeRef)
  | [] => .accepted []
  | j :: r => List.cons <$> Reading.under (.index start) (decode j) <*> decodeItems (start + 1) r

end

mutual

def encode : TypeRef → Json
  | ⟨p, n, as, t⟩ =>
    .object [("namespace", .string p), ("name", .string n), ("arguments", .array (encodeAll as)),
      ("is_type_parameter", .bool t)]

def encodeAll : List TypeRef → List Json
  | [] => []
  | a :: as => encode a :: encodeAll as

end

end TypeRef

open Codec in
instance : Codec TypeRef where
  decode := TypeRef.decode
  encode := TypeRef.encode

namespace Record

open Codec

instance : Codec SourceLocation where
  decode := record fun o =>
    SourceLocation.mk <$> field "path" o <*> fieldD "line" 1 o <*> fieldD "column" 0 o <*> fieldD "length" 0 o
  encode l := .object [("path", encode l.path), ("line", encode l.line), ("column", encode l.column),
    ("length", encode l.length)]

instance : Codec Annotation where
  decode := record fun o => Annotation.mk <$> field "name" o <*> fieldD "location" none o
  encode a := .object [("name", encode a.name), ("location", encode a.location)]

instance : Codec Parameter where
  decode := record fun o => Parameter.mk <$> field "name" o <*> field "type" o <*> fieldD "default" none o
  encode p := .object [("name", encode p.name), ("type", encode p.type), ("default", encode p.default)]

instance : Codec MemberDeclaration where
  decode := record fun o =>
    MemberDeclaration.mk <$> field "name" o <*> field "type" o <*> fieldD "kind" .field o <*>
      fieldD "visibility" .publicAccess o <*> fieldD "owner" none o <*> fieldD "annotations" [] o <*>
      fieldD "parameters" [] o <*> fieldD "is_accessor" false o <*> fieldD "is_static" false o <*>
      fieldD "is_writable" false o <*> fieldD "location" none o
  encode m := .object [("name", encode m.name), ("type", encode m.type), ("kind", encode m.kind),
    ("visibility", encode m.visibility), ("owner", encode m.owner), ("annotations", encode m.annotations),
    ("parameters", encode m.parameters), ("is_accessor", encode m.isAccessor),
    ("is_static", encode m.isStatic), ("is_writable", encode m.isWritable), ("location", encode m.location)]

instance : Codec TypeBound where
  decode := record fun o => TypeBound.mk <$> field "parameter" o <*> field "bound" o
  encode b := .object [("parameter", encode b.parameter), ("bound", encode b.bound)]

def membersOf? : Json → Option (List Json)
  -- Texts and objects can be run through too, and give their characters and the names of their fields.
  | .array items => some items
  | .string s => some (s.toList.map fun c => .string (String.ofList [c]))
  | .object fields => some (fields.map fun f => .string f.1)
  | _ => none

def withOwner (owner : TypeRef) : Json → Json
  | .object fields =>
    match Assoc.find? "owner" fields with
    | none | some .null => .object (Assoc.put "owner" (encode owner) fields)
    | some _ => .object fields
  | j => j

/-- Gives members without an owner the declared type as theirs. Nothing happens where the type or the members
are absent or empty. -/
def attachOwners (o : List (String × Json)) : Reading (List (String × Json)) :=
  match Assoc.find? "ref" o, Assoc.find? "members" o with
  | none, _ | some .null, _ | _, none => .accepted o
  | some ref, some members =>
    if members.isTruthy then
      Reading.andThen (fun owner =>
        match membersOf? members with
        | none => .aborted .membersNotIterable
        | some items => .accepted (Assoc.put "members" (.array (items.map (withOwner owner))) o))
        (decode ref)
    else .accepted o

def typeDeclaration (o : List (String × Json)) : Reading TypeDeclaration :=
  TypeDeclaration.mk <$> field "ref" o <*> fieldD "base" none o <*> fieldD "interfaces" [] o <*>
    fieldD "members" [] o <*> fieldD "annotations" [] o <*> fieldD "is_interface" false o <*>
    fieldD "bounds" [] o <*> fieldD "location" none o

instance : Codec TypeDeclaration where
  decode := record fun o => Reading.andThen typeDeclaration (attachOwners o)
  encode d := .object [("ref", encode d.ref), ("base", encode d.base), ("interfaces", encode d.interfaces),
    ("members", encode d.members), ("annotations", encode d.annotations),
    ("is_interface", encode d.isInterface), ("bounds", encode d.bounds), ("location", encode d.location)]

def declarationSet (types : List TypeDeclaration) : Reading DeclarationSet :=
  match DeclarationSet.ofTypes types with
  | .ok s => .accepted s
  | .error d => .aborted (.declaredTwice d.fullName)

instance : Codec DeclarationSet where
  decode := record fun o => Reading.andThen declarationSet (fieldD "types" [] o)
  encode s := .object [("types", encode s.types)]

end Record

end Wiring
