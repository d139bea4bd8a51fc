import Wiring.Container.Library.Members
import Wiring.Container.Library.Own
import Wiring.Container.Meaning

/-!
What units can use without declaring it: what is there for every unit, and what can be imported from modules that
no class of the table is in.
-/

namespace Wiring.Container.Library

def commonClasses : List String :=
  words
    ["ArithmeticError AssertionError AttributeError BaseException BaseExceptionGroup BlockingIOError",
     "BrokenPipeError BufferError BytesWarning ChildProcessError ConnectionAbortedError ConnectionError",
     "ConnectionRefusedError ConnectionResetError DeprecationWarning EOFError EncodingWarning Exception",
     "ExceptionGroup FileExistsError FileNotFoundError FloatingPointError FutureWarning GeneratorExit",
     "ImportError ImportWarning IndentationError IndexError InterruptedError IsADirectoryError KeyError",
     "KeyboardInterrupt LookupError MemoryError ModuleNotFoundError NameError NotADirectoryError",
     "NotImplementedError OSError OverflowError PendingDeprecationWarning PermissionError",
     "ProcessLookupError RecursionError ReferenceError ResourceWarning RuntimeError RuntimeWarning",
     "StopAsyncIteration StopIteration SyntaxError SyntaxWarning SystemError SystemExit TabError",
     "TimeoutError TypeError UnboundLocalError UnicodeDecodeError UnicodeEncodeError UnicodeError",
     "UnicodeTranslateError UnicodeWarning UserWarning ValueError Warning ZeroDivisionError bool bytearray",
     "bytes classmethod complex dict enumerate filter float frozenset int list map memoryview object",
     "property range reversed set slice staticmethod str super tuple type zip"]

def commonFunctions : List String :=
  words
    ["__build_class__ __import__ abs aiter all anext any ascii bin breakpoint callable chr compile delattr",
     "dir divmod eval exec format getattr globals hasattr hash hex id input isinstance issubclass iter len",
     "locals max min next oct open ord pow print repr round setattr sorted sum vars"]

def commonGenerics : List String :=
  words
    ["BaseExceptionGroup ExceptionGroup dict enumerate frozenset list set tuple type"]

def secondNames : List (String × String) :=
  [("EnvironmentError", "OSError"), ("IOError", "OSError")]

def ofBuiltin (name : String) : Meaning :=
  .thing Meaning.builtinSort (some name) ("<built-in function " ++ name ++ ">")

def classIn (module qualifiedName : String) : ClassHead where
  module := module
  qualifiedName := qualifiedName
  name := String.ofList ((Text.pieces '.' qualifiedName.toList).getLastD [])

def unkeyable (sort : String) : Meaning :=
  .type (.thing { sort, text := "<" ++ sort ++ " object>", isKey := false })

def commonDescription : String :=
  "Built-in functions, exceptions, and other objects.\n\n" ++
    "Noteworthy: None is the `nil' object; Ellipsis represents `...' in slices."

def commonValues : List (String × Meaning) :=
  [("None", .none), ("True", .ofBool true), ("False", .ofBool false), ("__debug__", .ofBool true),
    ("__package__", .ofText ""), ("__doc__", .ofText commonDescription), ("__spec__", unkeyable "ModuleSpec"),
    ("__builtins__", unkeyable "dict"), ("__loader__", .type (.bare (classIn "_frozen_importlib" "BuiltinImporter"))),
    ("Ellipsis", .type TypeExpr.ellipsis),
    ("NotImplemented", .thing "NotImplementedType" none "NotImplemented"),
    ("exit", .thing "Quitter" none "Use exit() or Ctrl-D (i.e. EOF) to exit"),
    ("quit", .thing "Quitter" none "Use quit() or Ctrl-D (i.e. EOF) to exit"),
    ("help", .thing "_Helper" none
      "Type help() for interactive help, or help(object) for help about object."),
    ("license", .thing "_Printer" none "Type license() to see the full license text")]

def common? (name : String) : Option Meaning :=
  let name := (Assoc.find? name secondNames).getD name
  match Assoc.find? name commonValues with
  | some m => some m
  | none =>
    if name ∈ commonGenerics then some (.generic none (.builtin name) none)
    else if name ∈ commonClasses then some (.type (.bare (.builtin name)))
    else if name ∈ commonFunctions then some (ofBuiltin name)
    else none

def aliases : List (String × String × String × Option Nat) :=
  [("AbstractSet", "collections.abc", "Set", some 1),
   ("AsyncContextManager", "contextlib", "AbstractAsyncContextManager", some 1),
   ("AsyncGenerator", "collections.abc", "AsyncGenerator", some 2),
   ("AsyncIterable", "collections.abc", "AsyncIterable", some 1),
   ("AsyncIterator", "collections.abc", "AsyncIterator", some 1),
   ("Awaitable", "collections.abc", "Awaitable", some 1),
   ("ByteString", "collections.abc", "ByteString", some 0), ("Callable", "collections.abc", "Callable", some 2),
   ("ChainMap", "collections", "ChainMap", some 2), ("Collection", "collections.abc", "Collection", some 1),
   ("Container", "collections.abc", "Container", some 1),
   ("ContextManager", "contextlib", "AbstractContextManager", some 1),
   ("Coroutine", "collections.abc", "Coroutine", some 3), ("Counter", "collections", "Counter", some 1),
   ("DefaultDict", "collections", "defaultdict", some 2), ("Deque", "collections", "deque", some 1),
   ("Dict", "builtins", "dict", some 2), ("FrozenSet", "builtins", "frozenset", some 1),
   ("Generator", "collections.abc", "Generator", some 3), ("Hashable", "collections.abc", "Hashable", some 0),
   ("ItemsView", "collections.abc", "ItemsView", some 2), ("Iterable", "collections.abc", "Iterable", some 1),
   ("Iterator", "collections.abc", "Iterator", some 1), ("KeysView", "collections.abc", "KeysView", some 1),
   ("List", "builtins", "list", some 1), ("Mapping", "collections.abc", "Mapping", some 2),
   ("MappingView", "collections.abc", "MappingView", some 1), ("Match", "re", "Match", some 1),
   ("MutableMapping", "collections.abc", "MutableMapping", some 2),
   ("MutableSequence", "collections.abc", "MutableSequence", some 1),
   ("MutableSet", "collections.abc", "MutableSet", some 1),
   ("OrderedDict", "collections", "OrderedDict", some 2), ("Pattern", "re", "Pattern", some 1),
   ("Reversible", "collections.abc", "Reversible", some 1), ("Sequence", "collections.abc", "Sequence", some 1),
   ("Set", "builtins", "set", some 1), ("Sized", "collections.abc", "Sized", some 0),
   ("Tuple", "builtins", "tuple", none), ("Type", "builtins", "type", some 1),
   ("ValuesView", "collections.abc", "ValuesView", some 1)]

def typingClasses : List String :=
  words
    ["Any BinaryIO ForwardRef Generic NamedTupleMeta NewType ParamSpec ParamSpecArgs ParamSpecKwargs Protocol",
     "SupportsBytes SupportsComplex SupportsFloat SupportsIndex SupportsInt TextIO TypeVar TypeVarTuple"]

def typingFunctions : List String :=
  words
    ["NamedTuple TypedDict assert_never assert_type cast clear_overloads dataclass_transform final get_args",
     "get_origin get_overloads get_type_hints is_typeddict no_type_check no_type_check_decorator overload",
     "reveal_type runtime_checkable"]

def typingGenerics : List (String × String) :=
  [("IO", "AnyStr"), ("SupportsAbs", "T_co"), ("SupportsRound", "T_co")]

def typingVariables : List String :=
  words
    ["AnyStr CT_co KT T T_co T_contra VT VT_co V_co"]

def typingImports : List (String × String) :=
  [("ABCMeta", "abc"), ("GenericAlias", "types"), ("MethodDescriptorType", "types"), ("MethodWrapperType", "types"),
    ("WrapperDescriptorType", "types"), ("abstractmethod", "abc"), ("defaultdict", "collections"),
    ("namedtuple", "collections")]

def typingModules : List String :=
  words
    ["collections contextlib functools operator sys types warnings"]

def hasWord (table : List (String × List String)) (module name : String) : Bool :=
  table.any fun r => r.1 = module && name ∈ r.2

def otherName? (table : List (String × String × String)) (module name : String) : Option String :=
  (table.find? fun r => r.1 = module && r.2.1 = name).map fun r => r.2.2

def ofClasses? (table : List (String × String × List String)) (module name : String) : Option ClassHead :=
  (table.find? fun r => r.1 = module && name ∈ r.2.2).map fun r => classIn r.2.1 name

def standardClass? (module name : String) : Option ClassHead :=
  match standardRenames.find? fun r => r.1 = module && r.2.1 = name with
  | some (_, _, home, own) => some (classIn home own)
  | none => ofClasses? standardClasses module name

def function? (table : List (String × List String)) (others : List (String × String × String))
    (module name : String) : Option String :=
  if hasWord table module name then some name else otherName? others module name

def number? (module name : String) : Option Int := do
  let (_, entries) ← standardNumbers.find? fun r => r.1 = module
  entries.findSome? fun e =>
    match Text.pieces '=' e.toList with
    | [n, digits] => if String.ofList n = name then (String.ofList digits).toInt? else none
    | _ => none

def decimals : List (String × Double) :=
  [("e", .ofDecimal false 2718281828459045 (-15)), ("pi", .ofDecimal false 3141592653589793 (-15)),
    ("tau", .ofDecimal false 6283185307179586 (-15)), ("inf", .infinite false), ("nan", .notANumber)]

def decimal? (module name : String) : Option Double :=
  if module ∈ ["cmath", "math"] then Assoc.find? name decimals
  else if module = "statistics" ∧ name = "tau" then Assoc.find? name decimals
  else if module = "threading" ∧ name = "TIMEOUT_MAX" then some (.ofDecimal false 9223372036 0)
  else none

def standardNothings : List (String × String) :=
  [("os", "altsep"), ("os.path", "altsep"), ("pickle", "PyStringMap"), ("posixpath", "altsep"),
    ("sys", "pycache_prefix"), ("tempfile", "tempdir")]

def value? (module name : String) : Option Meaning :=
  (standardValues.filter fun r => r.1 = module).findSome? fun r =>
    (Assoc.find? name r.2.2).map fun shown =>
      .type (.thing { sort := r.2.1, text := shown, isKey := r.2.1 ≠ "list" })

def unkeyable? (module name : String) : Option Meaning :=
  let sort : Option String := match name with
    | "__all__" => if module ∈ standardUnlisted then none else some "list"
    | "__dict__" => some "dict"
    | "__spec__" => some "ModuleSpec"
    | _ => (standardUnkeyable.find? fun r => r.1 = module && name ∈ r.2.2).map fun r => r.2.1
  sort.map unkeyable

def truth? (module name : String) : Option Meaning :=
  standardTruths.findSome? fun (r : String × String × Bool) =>
    if r.1 = module ∧ r.2.1 = name then some (.ofBool r.2.2) else none

def constant? (module name : String) : Option Meaning :=
  match number? module name, decimal? module name, otherName? standardTexts module name with
  | some n, _, _ => some (.type (.key (.integer n)))
  | none, some d, _ => some (.type (.key (.decimal d)))
  | none, none, some s => some (.ofText s)
  | none, none, none =>
    if (module, name) ∈ standardNothings then some .none
    else value? module name <|> truth? module name <|> unkeyable? module name

def standard? (module name : String) : Option Meaning :=
  match standardClass? module name with
  | some c => some (if hasWord standardGenerics module name then .generic none c none else .type (.bare c))
  | none =>
    match function? standardFunctions standardFunctionNames module name,
      function? standardBuiltins standardBuiltinNames module name,
      function? standardImports standardImportNames module name with
    | some f, _, _ => some (.ofFunctionName f)
    | none, some f, _ => some (ofBuiltin f)
    | none, none, some m => some (.ofModule m)
    | none, none, none => constant? module name

def typing? (name : String) : Option Meaning :=
  match aliases.find? fun a => a.1 = name with
  | some (_, module, c, count) => some (.generic (some name) (classIn module c) count)
  | none =>
    if name ∈ "Annotated" :: TypeExpr.forms then some (.form name)
    else if name = "Text" then some (.type (.bare (.builtin "str")))
    else if name = "TYPE_CHECKING" then some (.ofBool false)
    else if name ∈ typingVariables then some (.type (.variable (.unit TypeExpr.typingModule) name))
    else if name ∈ typingFunctions then some (.ofFunctionName name)
    else match Assoc.find? name typingGenerics, Assoc.find? name typingImports with
    | some parameter, _ => some (.type (.bare { TypeExpr.formHead name with parameters := [parameter] }))
    | none, some module => standard? module name
    | none, none =>
      if name ∈ typingClasses then some (.type (.bare (TypeExpr.formHead name)))
      else if name ∈ typingModules then some (.ofModule name)
      else unkeyable? TypeExpr.typingModule name

def known (c : ClassHead) : ClassHead :=
  ([TypeExpr.contextLogger].find? fun d => d.module = c.module && d.name = c.name).getD c

def own? (module name : String) : Option Meaning :=
  match ofClasses? ownClasses module name with
  | some c => some (.type (.bare (known c)))
  | none =>
    if hasWord ownFunctions module name then some (.ofFunctionName name)
    else if hasWord ownTyping module name then typing? name
    else none

def fixedClasses : List ClassHead :=
  standardFixed.flatMap fun r => r.2.map (classIn r.1)

def hasModule (module : String) : Bool :=
  module ∈ standardModules ++ standardSubmodules ++ ownModules

def find? (module name : String) : Option Meaning :=
  let found := if module = TypeExpr.typingModule then typing? name else own? module name <|> standard? module name
  match found with
  | some m => some m
  | none => if name = "__name__" ∧ hasModule module then some (.ofText module) else none

end Wiring.Container.Library
