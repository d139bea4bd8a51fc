import Wiring.Record.Declaration
import Wiring.Text.Split

/-!
Declarations in fewer words. A call names a kind of record and gives it what it cannot do without, in order or by
name; calls stand inside each other. A call gives a document of the record, with all its fields.
-/

namespace Wiring.Shorthand

inductive Kind where
  | typeRef
  | location
  | mark
  | parameter
  | bound
  | member
  | declaration
  deriving DecidableEq

inductive Shape where
  | record (kind : Kind)
  | tuple (kind : Kind)
  | plain

def Kind.shapes : Kind → List (String × Shape)
  | .typeRef => [("arguments", .tuple .typeRef)]
  | .location => []
  | .mark => [("location", .record .location)]
  | .parameter => [("type", .record .typeRef)]
  | .bound => [("bound", .record .typeRef)]
  | .member => [("type", .record .typeRef), ("owner", .record .typeRef), ("annotations", .tuple .mark),
      ("parameters", .tuple .parameter), ("location", .record .location)]
  | .declaration => [("ref", .record .typeRef), ("base", .record .typeRef), ("interfaces", .tuple .typeRef),
      ("members", .tuple .member), ("annotations", .tuple .mark), ("bounds", .tuple .bound),
      ("location", .record .location)]

def Kind.shapeOf (k : Kind) (field : String) : Shape :=
  (Assoc.find? field k.shapes).getD .plain

inductive Draft where
  | plain (value : Json)
  | array (items : List Draft)
  | object (fields : List (String × Draft))
  | made (kind : Kind) (document : List (String × Json))
  deriving Inhabited

namespace Draft

mutual

def document : Draft → Json
  | .plain j => j
  | .array items => .array (documents items)
  | .object fields => .object (fieldDocuments fields)
  | .made _ fields => .object fields

def documents : List Draft → List Json
  | [] => []
  | d :: r => document d :: documents r

def fieldDocuments : List (String × Draft) → List (String × Json)
  | [] => []
  | (name, d) :: r => (name, document d) :: fieldDocuments r

end

mutual

def fitted : Shape → Draft → Json
  | _, .plain j => j
  | .plain, .made _ _ => .array []
  | .tuple _, .made _ _ => .bool true
  | .record kind, .made k fields => if k = kind then .object fields else .bool true
  | .tuple kind, .array items => .array (fittedItems kind items)
  | .record kind, .object fields => .object (fittedFields kind fields)
  | _, .array items => .array (documents items)
  | _, .object fields => .object (fieldDocuments fields)

def fittedItems (kind : Kind) : List Draft → List Json
  | [] => []
  | d :: r => fitted (.record kind) d :: fittedItems kind r

def fittedFields (kind : Kind) : List (String × Draft) → List (String × Json)
  | [] => []
  | (name, d) :: r => (name, fitted (kind.shapeOf name) d) :: fittedFields kind r

end

def string (s : String) : Draft :=
  .plain (.string s)

def isTruthy : Draft → Bool
  | .plain j => j.isTruthy
  | .array items => !items.isEmpty
  | .object fields => !fields.isEmpty
  | .made _ _ => true

end Draft

inductive Fault where
  | mismatch
  | notAText
  | refused (issues : List Issue)
  | aborted (reason : ReadingAbort)
  deriving DecidableEq

structure Signature where
  placed : List (String × Option Draft)
  more : Bool := false
  named : List (String × Option Draft) := []
  others : Bool := false

structure Words where
  values : List (String × Draft)
  more : List Draft
  others : List (String × Draft)

namespace Signature

def place : List (String × Option Draft) → List Draft → List (String × Draft) × List Draft
  | (name, _) :: r, v :: vs =>
    let (values, more) := place r vs
    ((name, v) :: values, more)
  | _, vs => ([], vs)

def nameOne (s : Signature) (w : Words) (f : String × Draft) : Except Fault Words :=
  if Assoc.contains f.1 w.values ∨ Assoc.contains f.1 w.others then .error .mismatch
  else if Assoc.contains f.1 s.placed ∨ Assoc.contains f.1 s.named then
    .ok { w with values := w.values ++ [f] }
  else if s.others then .ok { w with others := w.others ++ [f] }
  else .error .mismatch

def complete (w : Words) (p : String × Option Draft) : Except Fault Words :=
  if Assoc.contains p.1 w.values then .ok w
  else match p.2 with
    | some v => .ok { w with values := w.values ++ [(p.1, v)] }
    | none => .error .mismatch

def bind (s : Signature) (items : List Draft) (fields : List (String × Draft)) : Except Fault Words := do
  let (values, more) := place s.placed items
  if !more.isEmpty && !s.more then throw .mismatch
  let w ← fields.foldlM s.nameOne { values, more, others := [] }
  (s.placed ++ s.named).foldlM complete w

end Signature

namespace Words

def get (w : Words) (name : String) : Draft :=
  (Assoc.find? name w.values).getD (.plain .null)

end Words

def full (α : Type) [Codec α] (kind : Kind) (fields : List (String × Draft)) : Except Fault Draft :=
  match (Codec.decode (.object (Draft.fittedFields kind fields)) : Reading α) with
  | .accepted a =>
    match Codec.encode a with
    | .object fields => .ok (.made kind fields)
    | j => .ok (.plain j)
  | .refused issues => .error (.refused issues)
  | .aborted reason => .error (.aborted reason)

def items : Draft → Except Fault (List Draft)
  | .array items => .ok items
  | .plain (.string s) => .ok (s.toList.map fun c => .string (String.ofList [c]))
  | .object fields => .ok (fields.map fun f => .string f.1)
  | .made _ fields => .ok (fields.map fun f => .array [.string f.1, .plain f.2])
  | .plain _ => .error .mismatch

def ref (name : Draft) (arguments : List Draft) : Except Fault Draft :=
  match name with
  | .plain (.string s) =>
    let (package, name) := Text.splitLast '.' s
    full TypeRef .typeRef
      [("namespace", .string package), ("name", .string name), ("arguments", .array arguments)]
  | _ => .error .notAText

def typeParameter (name : Draft) : Except Fault Draft :=
  full TypeRef .typeRef [("name", name), ("is_type_parameter", .plain (.bool true))]

def nothing : Draft :=
  .plain .null

def defaultPath : Draft :=
  .string "declarations.py"

def location (path line : Draft) : Except Fault Draft :=
  full SourceLocation .location [("path", path), ("line", line)]

def locationAt? : Draft → Except Fault Draft
  | .plain .null => .ok nothing
  | line => location defaultPath line

def mark (place name : Draft) : Except Fault Draft :=
  full Annotation .mark [("name", name), ("location", place)]

def dependency (w : Words) : Except Fault Draft := do
  let marker ← mark nothing (w.get "marker")
  let place ← locationAt? (w.get "line")
  full MemberDeclaration .member [("name", w.get "name"), ("type", w.get "type"), ("kind", w.get "kind"),
    ("visibility", w.get "visibility"), ("annotations", .array [marker]), ("location", place)]

def member (own : List (String × Draft)) (w : Words) : Except Fault Draft :=
  if own.any fun f => Assoc.contains f.1 w.others then .error .mismatch
  else full MemberDeclaration .member (own ++ w.others)

def method (w : Words) : Except Fault Draft :=
  member [("name", w.get "name"), ("type", w.get "returns"), ("kind", .string "method"),
    ("parameters", .array w.more)] w

def property (w : Words) : Except Fault Draft :=
  member [("name", w.get "name"), ("type", w.get "type"), ("kind", .string "property"),
    ("is_writable", w.get "writable")] w

def bound (f : String × Draft) : Except Fault Draft :=
  full TypeBound .bound [("parameter", .string f.1), ("bound", f.2)]

def boundsOf (d : Draft) : Except Fault (List (String × Draft)) :=
  match d with
  | .object fields => .ok fields
  | d => if d.isTruthy then .error .notAText else .ok []

def serviceType (isInterface : Bool) (w : Words) : Except Fault Draft := do
  let place ← locationAt? (w.get "line")
  let parameters ← (← items (w.get "type_parameters")).mapM typeParameter
  let self ← ref (w.get "full_name") parameters
  let interfaces ← items (w.get "interfaces")
  let lifetimes ← items (w.get "lifetimes")
  let annotations ← items (w.get "annotations")
  let marks ← (lifetimes ++ annotations).mapM (mark place)
  let bounds ← (← boundsOf (w.get "bounds")).mapM bound
  let declaration ← full TypeDeclaration .declaration [("ref", self), ("base", w.get "base"),
    ("interfaces", .array interfaces), ("members", .array w.more), ("annotations", .array marks),
    ("bounds", .array bounds), ("location", place)]
  match declaration with
  | .made kind fields => return .made kind (Assoc.put "is_interface" (.bool isInterface) fields)
  | d => return d

def typeSignature (lifetimes : List (String × Option Draft)) : Signature where
  placed := [("full_name", none)]
  more := true
  named := lifetimes ++ [("type_parameters", some (.array [])), ("base", some nothing),
    ("interfaces", some (.array [])), ("annotations", some (.array [])), ("bounds", some nothing),
    ("line", some nothing)]

def unlivedType (isInterface : Bool) (w : Words) : Except Fault Draft :=
  serviceType isInterface { w with values := ("lifetimes", .array []) :: w.values }

def calls : List (String × Signature × (Words → Except Fault Draft)) :=
  [("ref", { placed := [("full_name", none)], more := true }, fun w => ref (w.get "full_name") w.more),
    ("type_param", { placed := [("name", none)] }, fun w => typeParameter (w.get "name")),
    ("location", { placed := [("path", some defaultPath), ("line", some (.plain (.integer 1)))] },
      fun w => location (w.get "path") (w.get "line")),
    ("dependency", { placed := [("name", none), ("type", none), ("visibility", some (.string "private")),
      ("kind", some (.string "field")), ("marker", some (.string "Inject")), ("line", some nothing)] }, dependency),
    ("method", { placed := [("name", none), ("returns", none)], more := true, others := true }, method),
    ("prop", { placed := [("name", none), ("type", none), ("writable", some (.plain (.bool false)))], others := true },
      property),
    ("service_type", typeSignature [("lifetimes", some (.array [.string "Transient"]))], serviceType false),
    ("plain_type", typeSignature [], unlivedType false),
    ("interface_type", typeSignature [], unlivedType true),
    ("parameter", { placed := [], others := true }, fun w => full Parameter .parameter w.others)]

def call (name : String) (items : List Draft) (fields : List (String × Draft)) : Except Fault Draft :=
  match Assoc.find? name calls with
  | none => .error .mismatch
  | some (s, make) => do make (← s.bind items fields)

def itemsOf : Option Draft → List Draft
  | some (.array items) => items
  | _ => []

def fieldsOf : Option Draft → List (String × Draft)
  | some (.object fields) => fields
  | _ => []

mutual

def draft : Json → Except Fault Draft
  | .array items => do return .array (← draftItems items)
  | .object fields => do
    let fields ← draftFields fields
    match Assoc.find? "fn" fields with
    | some (.plain (.string name)) =>
      call name (itemsOf (Assoc.find? "args" fields)) (fieldsOf (Assoc.find? "kwargs" fields))
    | _ => return .object fields
  | j => return .plain j

def draftItems : List Json → Except Fault (List Draft)
  | [] => return []
  | j :: r => do return (← draft j) :: (← draftItems r)

def draftFields : List (String × Json) → Except Fault (List (String × Draft))
  | [] => return []
  | (k, j) :: r => do return (k, ← draft j) :: (← draftFields r)

end

def eval (j : Json) : Except Fault Json :=
  Draft.document <$> draft j

end Wiring.Shorthand
