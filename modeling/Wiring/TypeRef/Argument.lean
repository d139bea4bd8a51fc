import Wiring.Text.Template.Value
import Wiring.TypeRef

/-!
References as arguments of message templates: the fields of a reference, what is computed from them, and what all
references share.
-/

namespace Wiring.TypeRef

open Text.Template

def modelSort : Kind :=
  .sorted "pydantic._internal._model_construction" "ModelMetaclass" (.derived "abc" "ABCMeta" (.common "type"))
    (.common "type")

def modelKind : Kind :=
  .sorted "pydantic.main" "BaseModel" .object modelSort

def kind : Kind :=
  .sorted "miraveja_digen.domain.models" "TypeRef" modelKind modelSort

def description : String :=
  "Value object referencing a type by namespace and name.\n\n" ++
  "    A reference with an empty namespace that is not a type parameter is a\n" ++
  "    pending reference: a name the declaration model could not bind, typically\n" ++
  "    an interface that has not been generated yet.\n\n" ++
  "    Attributes:\n" ++
  "        namespace: Dotted module path owning the type.\n" ++
  "        name: Simple name of the type.\n" ++
  "        arguments: Generic type arguments, in order.\n" ++
  "        is_type_parameter: Whether this reference names a type variable.\n" ++
  "    "

def ellipsis : Value :=
  .ofLiteral (.common "ellipsis") "Ellipsis" []

def argumentsType (item : String) (itemValue : Value) : Value :=
  .ofLiteral (.derived "typing" "_GenericAlias" (.derived "typing" "_BaseGenericAlias" .object))
    ("typing.Tuple[" ++ item ++ ", ...]")
    [("__origin__", .ofKind (.common "tuple")), ("__args__", .tuple [itemValue, ellipsis]),
      ("__parameters__", .tuple []), ("__module__", .ofString "typing"), ("__name__", .ofString "Tuple"),
      ("__qualname__", .ofString "Tuple"), ("_name", .ofString "Tuple")]

def forward (name : String) : Value :=
  .ofLiteral (.derived "typing" "ForwardRef" .object) ("ForwardRef(" ++ Text.quoted name ++ ")")
    [("__forward_arg__", .ofString name), ("__forward_evaluated__", .truth false)]

def writtenTypes : List (String × Value) :=
  [("namespace", .ofKind (.common "str")), ("name", .ofKind (.common "str")),
    ("arguments", argumentsType "ForwardRef('TypeRef')" (forward "TypeRef")),
    ("is_type_parameter", .ofKind .ofTruth)]

def fieldInfo (typeName : String) (type : Value) (default : Option Value) (about : String) : Value :=
  let pairs := [("annotation", typeName), ("required", (Value.truth default.isNone).literal)] ++
    (default.toList.map fun v => ("default", v.literal)) ++ [("description", Text.quoted about)]
  let texts := pairs.map fun (name, text) => name ++ "=" ++ text
  let missing := Value.ofLiteral (.derived "pydantic_core" "PydanticUndefinedType" .object) "PydanticUndefined" []
  .thing (.derived "pydantic.fields" "FieldInfo" (.derived "pydantic._internal._repr" "Representation" .object))
    (" ".intercalate texts) ("FieldInfo(" ++ ", ".intercalate texts ++ ")")
    ([("annotation", type), ("default", default.getD missing), ("description", .ofString about),
      ("repr", .truth true), ("metadata", .ofLiteral (.common "list") "[]" [])] ++
      ["default_factory", "alias", "alias_priority", "validation_alias", "serialization_alias", "title",
        "field_title_generator", "examples", "exclude", "discriminator", "deprecated", "json_schema_extra", "frozen",
        "validate_default", "init", "init_var", "kw_only"].map (·, .nothing))

def fieldInfos : List (String × Value) :=
  let text := Value.ofKind (.common "str")
  [("namespace", fieldInfo "str" text (some (.ofString "")) "Dotted namespace owning the type."),
    ("name", fieldInfo "str" text none "Simple name of the type."),
    ("arguments",
      fieldInfo "Tuple[TypeRef, ...]" (argumentsType "miraveja_digen.domain.models.TypeRef" (.ofKind kind))
        (some (.tuple [])) "Generic type arguments."),
    ("is_type_parameter",
      fieldInfo "bool" (.ofKind .ofTruth) (some (.truth false)) "Whether the reference is a type variable.")]

def kindMethods : List String :=
  ["model_construct", "model_json_schema", "model_parametrized_name", "model_rebuild", "model_validate",
    "model_validate_json", "model_validate_strings", "parse_obj", "parse_raw", "parse_file", "from_orm", "construct",
    "schema", "schema_json", "validate", "update_forward_refs", "_get_value", "__class_getitem__",
    "__get_pydantic_core_schema__", "__get_pydantic_json_schema__", "__pydantic_init_subclass__"]

def shared : List (String × Value) :=
  [("model_config", .dictionary [("frozen", .truth true)]), ("model_fields", .dictionary fieldInfos),
    ("__pydantic_fields__", .dictionary fieldInfos), ("model_computed_fields", .dictionary []),
    ("__pydantic_computed_fields__", .dictionary []), ("__annotations__", .dictionary writtenTypes),
    ("__doc__", .ofString description), ("__module__", .ofString kind.module),
    ("__slots__", .tuple (["__dict__", "__pydantic_fields_set__", "__pydantic_extra__",
      "__pydantic_private__"].map Value.ofString)),
    ("__class_vars__", .set []), ("__private_attributes__", .dictionary []),
    ("__abstractmethods__", .ofLiteral (.common "frozenset") "frozenset()" []),
    ("__pydantic_complete__", .truth true), ("__pydantic_root_model__", .truth false),
    ("__pydantic_custom_init__", .truth false), ("__pydantic_post_init__", .nothing),
    ("__pydantic_parent_namespace__", .nothing),
    ("__pydantic_generic_metadata__",
      .dictionary [("origin", .nothing), ("args", .tuple []), ("parameters", .tuple [])]),
    ("__pydantic_decorators__",
      .ofLiteral (.derived "pydantic._internal._decorators" "DecoratorInfos" .object)
        ("DecoratorInfos(" ++ ", ".intercalate (decorators.map (· ++ "=\x7b\x7d")) ++ ")")
        (decorators.map (·, .dictionary [])))] ++
  kindMethods.map fun name => (name, .method name (modelKind.name ++ "." ++ name) (.ofKind kind))
where
  decorators : List String :=
    ["validators", "field_validators", "root_validators", "field_serializers", "model_serializers",
      "model_validators", "computed_fields"]

def kindValue : Value :=
  .sort kind (("__weakref__", .ofMember kind .property "__weakref__") ::
    ("__signature__", .thing (.derived "inspect" "Signature" .object) signature ("<Signature " ++ signature ++ ">") [])
    :: shared)
where
  signature : String :=
    "(*, namespace: str = '', name: str, arguments: Tuple[miraveja_digen.domain.models.TypeRef, ...] = (), " ++
    "is_type_parameter: bool = False) -> None"

def methods : List (String × String) :=
  ["with_arguments", "in_namespace", "__str__"].map (ofKind kind.name) ++
  ["model_copy", "model_dump", "model_dump_json", "model_post_init", "copy", "dict", "json", "_iter",
    "_calculate_keys", "_copy_and_set_values", "__init__", "__copy__", "__deepcopy__", "__delattr__", "__eq__",
    "__getattr__", "__getstate__", "__iter__", "__replace__", "__repr__", "__repr_args__", "__setattr__",
    "__setstate__"].map (ofKind modelKind.name) ++
  [("__hash__", "make_hash_func.<locals>.hash_func")] ++
  ["__pretty__", "__repr_name__", "__repr_recursion__", "__repr_str__", "__rich_repr__"].map
    (ofKind "Representation")
where
  ofKind (origin name : String) : String × String :=
    (name, origin ++ "." ++ name)

def given (package : String) (hasNoArguments isTypeParameter : Bool) : List Value :=
  (["name"] ++ (if package = "" then [] else ["namespace"]) ++ (if hasNoArguments then [] else ["arguments"]) ++
    if isTypeParameter then ["is_type_parameter"] else []).map .ofString

mutual

def templateValue : TypeRef → Value
  | .mk package name arguments isTypeParameter =>
    let r : TypeRef := .mk package name arguments isTypeParameter
    let fields :=
      [("namespace", Value.ofString package), ("name", .ofString name),
        ("arguments", .tuple (templateValues arguments)), ("is_type_parameter", .truth isTypeParameter)]
    let set := Value.set (given package arguments.isEmpty isTypeParameter)
    .record kind r.text fields
      ([("key", .tuple [.ofString package, .ofString name]), ("full_name", .ofString r.fullName),
        ("is_generic", .truth r.isGeneric), ("is_pending", .truth r.isPending), ("is_builtin", .truth r.isBuiltin),
        ("model_extra", .nothing), ("__pydantic_extra__", .nothing), ("__pydantic_private__", .nothing),
        ("__weakref__", .nothing), ("__dict__", .dictionary fields), ("model_fields_set", set),
        ("__pydantic_fields_set__", set), ("__fields_set__", set), ("__class__", kindValue)] ++ shared)
      methods

def templateValues : List TypeRef → List Value
  | [] => []
  | r :: rs => templateValue r :: templateValues rs

end

end Wiring.TypeRef
