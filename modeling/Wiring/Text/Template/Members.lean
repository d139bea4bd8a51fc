import Wiring.Text.Split

/-!
What the members of common kinds of values are called, and how these kinds are described.
-/

namespace Wiring.Text.Template

inductive MemberKind where
  | method
  | wrapper
  | property
  | slot
  deriving DecidableEq

def MemberKind.text : MemberKind → String
  | method => "method"
  | wrapper => "slot wrapper"
  | property => "attribute"
  | slot => "member"

def memberTable : List (String × MemberKind × List String) :=
  [("object", .method,
    ["__reduce_ex__ __reduce__ __getstate__ __format__ __sizeof__ __dir__"]),
   ("object", .wrapper,
    ["__repr__ __hash__ __str__ __getattribute__ __setattr__ __delattr__ __lt__ __le__ __eq__ __ne__",
     "__gt__ __ge__ __init__"]),
   ("object", .property,
    ["__class__"]),
   ("type", .method,
    ["mro __subclasses__ __instancecheck__ __subclasscheck__ __dir__ __sizeof__"]),
   ("type", .wrapper,
    ["__repr__ __call__ __getattribute__ __setattr__ __delattr__ __init__ __or__ __ror__"]),
   ("type", .property,
    ["__name__ __qualname__ __bases__ __module__ __abstractmethods__ __dict__ __doc__",
     "__text_signature__ __annotations__"]),
   ("type", .slot,
    ["__basicsize__ __itemsize__ __flags__ __weakrefoffset__ __base__ __dictoffset__ __mro__"]),
   ("str", .method,
    ["encode replace split rsplit join capitalize casefold title center count expandtabs find",
     "partition index ljust lower lstrip rfind rindex rjust rstrip rpartition splitlines strip",
     "swapcase translate upper startswith endswith removeprefix removesuffix isascii islower isupper",
     "istitle isspace isdecimal isdigit isnumeric isalpha isalnum isidentifier isprintable zfill",
     "format format_map __format__ __sizeof__ __getnewargs__"]),
   ("str", .wrapper,
    ["__repr__ __hash__ __str__ __getattribute__ __lt__ __le__ __eq__ __ne__ __gt__ __ge__ __iter__",
     "__mod__ __rmod__ __len__ __getitem__ __add__ __mul__ __rmul__ __contains__"]),
   ("int", .method,
    ["conjugate bit_length bit_count to_bytes as_integer_ratio __trunc__ __floor__ __ceil__ __round__",
     "__getnewargs__ __format__ __sizeof__"]),
   ("int", .wrapper,
    ["__repr__ __hash__ __getattribute__ __lt__ __le__ __eq__ __ne__ __gt__ __ge__ __add__ __radd__",
     "__sub__ __rsub__ __mul__ __rmul__ __mod__ __rmod__ __divmod__ __rdivmod__ __pow__ __rpow__",
     "__neg__ __pos__ __abs__ __bool__ __invert__ __lshift__ __rlshift__ __rshift__ __rrshift__",
     "__and__ __rand__ __xor__ __rxor__ __or__ __ror__ __int__ __float__ __floordiv__ __rfloordiv__",
     "__truediv__ __rtruediv__ __index__"]),
   ("int", .property,
    ["real imag numerator denominator"]),
   ("bool", .wrapper,
    ["__repr__ __and__ __rand__ __xor__ __rxor__ __or__ __ror__"]),
   ("tuple", .method,
    ["__getnewargs__ index count"]),
   ("tuple", .wrapper,
    ["__repr__ __hash__ __getattribute__ __lt__ __le__ __eq__ __ne__ __gt__ __ge__ __iter__ __len__",
     "__getitem__ __add__ __mul__ __rmul__ __contains__"]),
   ("dict", .method,
    ["__getitem__ __contains__ __sizeof__ get setdefault pop popitem keys items values update clear",
     "copy __reversed__"]),
   ("dict", .wrapper,
    ["__repr__ __getattribute__ __lt__ __le__ __eq__ __ne__ __gt__ __ge__ __iter__ __init__ __or__",
     "__ror__ __ior__ __len__ __setitem__ __delitem__"]),
   ("set", .method,
    ["__contains__ add clear copy discard difference difference_update intersection",
     "intersection_update isdisjoint issubset issuperset pop __reduce__ remove __sizeof__",
     "symmetric_difference symmetric_difference_update union update"]),
   ("set", .wrapper,
    ["__repr__ __getattribute__ __lt__ __le__ __eq__ __ne__ __gt__ __ge__ __iter__ __init__ __sub__",
     "__rsub__ __and__ __rand__ __xor__ __rxor__ __or__ __ror__ __isub__ __iand__ __ixor__ __ior__",
     "__len__"]),
   ("list", .method,
    ["__getitem__ __reversed__ __sizeof__ clear copy append insert extend pop remove index count",
     "reverse sort"]),
   ("list", .wrapper,
    ["__repr__ __getattribute__ __lt__ __le__ __eq__ __ne__ __gt__ __ge__ __iter__ __init__",
     "__len__ __setitem__ __delitem__ __add__ __mul__ __rmul__ __contains__ __iadd__ __imul__"]),
   ("bytes", .method,
    ["__getnewargs__ __bytes__ capitalize center count decode endswith expandtabs find hex index",
     "isalnum isalpha isascii isdigit islower isspace istitle isupper join ljust lower lstrip",
     "partition replace removeprefix removesuffix rfind rindex rjust rpartition rsplit rstrip",
     "split splitlines startswith strip swapcase title translate upper zfill"]),
   ("bytes", .wrapper,
    ["__repr__ __hash__ __str__ __getattribute__ __lt__ __le__ __eq__ __ne__ __gt__ __ge__",
     "__iter__ __mod__ __rmod__ __len__ __getitem__ __add__ __mul__ __rmul__ __contains__"]),
   ("float", .method,
    ["conjugate __trunc__ __floor__ __ceil__ __round__ as_integer_ratio hex is_integer",
     "__getnewargs__ __format__"]),
   ("float", .wrapper,
    ["__repr__ __hash__ __getattribute__ __lt__ __le__ __eq__ __ne__ __gt__ __ge__ __add__",
     "__radd__ __sub__ __rsub__ __mul__ __rmul__ __mod__ __rmod__ __divmod__ __rdivmod__ __pow__",
     "__rpow__ __neg__ __pos__ __abs__ __bool__ __int__ __float__ __floordiv__ __rfloordiv__",
     "__truediv__ __rtruediv__"]),
   ("float", .property,
    ["real imag"]),
   ("range", .method,
    ["__reversed__ __reduce__ count index"]),
   ("range", .wrapper,
    ["__repr__ __hash__ __getattribute__ __lt__ __le__ __eq__ __ne__ __gt__ __ge__ __iter__",
     "__bool__ __len__ __getitem__ __contains__"]),
   ("frozenset", .method,
    ["__contains__ copy difference intersection isdisjoint issubset issuperset __reduce__",
     "__sizeof__ symmetric_difference union"]),
   ("frozenset", .wrapper,
    ["__repr__ __hash__ __getattribute__ __lt__ __le__ __eq__ __ne__ __gt__ __ge__ __iter__",
     "__sub__ __rsub__ __and__ __rand__ __xor__ __rxor__ __or__ __ror__ __len__"]),
   ("NoneType", .wrapper,
    ["__repr__ __bool__"])]

def memberKind? (kind name : String) : Option MemberKind :=
  (memberTable.find? fun r => r.1 = kind && r.2.2.any fun line => name.toList ∈ pieces ' ' line.toList).map (·.2.1)

def measures : List String :=
  ["__basicsize__", "__itemsize__", "__flags__", "__weakrefoffset__", "__dictoffset__"]

def measureTable : List (String × List Nat) :=
  [("object", [16, 0, 529664, 0, 0]),
    ("type", [904, 40, 2148031744, 368, 264]),
    ("str", [80, 0, 273159424, 0, 0]),
    ("int", [24, 4, 21501184, 0, 0]),
    ("bool", [32, 4, 21500160, 0, 0]),
    ("tuple", [24, 8, 71849248, 0, 0]),
    ("dict", [48, 0, 541611328, 0, 0]),
    ("set", [200, 0, 4740352, 192, 0]),
    ("NoneType", [16, 0, 528640, 0, 0])]

def measure? (kind name : String) : Option Nat := do
  let (_, numbers) ← measureTable.find? fun r => r.1 = kind
  ((measures.zip numbers).find? fun m => m.1 = name).map Prod.snd

def descriptions : List (String × String) :=
  [("object",
      "The base class of the class hierarchy.\n\n" ++
      "When called, it accepts no arguments and returns a new featureless\n" ++
      "instance that has no instance attributes and cannot be given any.\n"),
    ("type",
      "type(object) -> the object's type\ntype(name, bases, dict, **kwds) -> a new type"),
    ("str",
      "str(object='') -> str\nstr(bytes_or_buffer[, encoding[, errors]]) -> str\n\n" ++
      "Create a new string object from the given object. If encoding or\n" ++
      "errors is specified, then the object must expose a data buffer\n" ++
      "that will be decoded using the given encoding and error handler.\n" ++
      "Otherwise, returns the result of object.__str__() (if defined)\nor repr(object).\n" ++
      "encoding defaults to sys.getdefaultencoding().\nerrors defaults to 'strict'."),
    ("int",
      "int([x]) -> integer\nint(x, base=10) -> integer\n\n" ++
      "Convert a number or string to an integer, or return 0 if no arguments\n" ++
      "are given.  If x is a number, return x.__int__().  For floating point\n" ++
      "numbers, this truncates towards zero.\n\n" ++
      "If x is not a number or if base is given, then x must be a string,\n" ++
      "bytes, or bytearray instance representing an integer literal in the\n" ++
      "given base.  The literal can be preceded by '+' or '-' and be surrounded\n" ++
      "by whitespace.  The base defaults to 10.  Valid bases are 0 and 2-36.\n" ++
      "Base 0 means to interpret the base from the string as an integer literal.\n" ++
      ">>> int('0b100', base=0)\n4"),
    ("bool",
      "bool(x) -> bool\n\nReturns True when the argument x is true, False otherwise.\n" ++
      "The builtins True and False are the only two instances of the class bool.\n" ++
      "The class bool is a subclass of the class int, and cannot be subclassed."),
    ("tuple",
      "Built-in immutable sequence.\n\nIf no argument is given, the constructor returns an empty tuple.\n" ++
      "If iterable is specified the tuple is initialized from iterable's items.\n\n" ++
      "If the argument is a tuple, the return value is the same object."),
    ("dict",
      "dict() -> new empty dictionary\n" ++
      "dict(mapping) -> new dictionary initialized from a mapping object's\n    (key, value) pairs\n" ++
      "dict(iterable) -> new dictionary initialized as if via:\n    d = \x7b\x7d\n" ++
      "    for k, v in iterable:\n        d[k] = v\n" ++
      "dict(**kwargs) -> new dictionary initialized with the name=value pairs\n" ++
      "    in the keyword argument list.  For example:  dict(one=1, two=2)"),
    ("set",
      "set() -> new empty set object\nset(iterable) -> new set object\n\n" ++
      "Build an unordered collection of unique elements.")]

end Wiring.Text.Template
