import DiagCheck.Text.Basic

/-!
# Kinds of things

A path of members leads from a module to things of a few kinds, and what a thing has depends on
its kind alone, its own members apart. This module lists the members of each kind. Those of the
first kind, `object`, are had by everything that has no others of their names.
-/

namespace DiagCheck.Pipeline

/-- The kinds of things that a path can reach. The last six are members that are reached
themselves: an operation is one that an operator stands for, and it is bound if it is reached
from the thing that it works on; a property is worked out, a slot is stored. -/
inductive Kind where
  | object | kind | module | record | function | integer | text | bytes | tuple | list
  | dictionary | view | nothing | code
  | operation | boundOperation | method | boundMethod | property | slot
deriving DecidableEq

/-- Why a thing fails in the one call that depends on what it holds. -/
inductive Flaw where
  /-- A dictionary has no entry that could be taken from it. -/
  | noEntry
  /-- A list has no element that could be taken from it. -/
  | noElement
  | large
  /-- A text has a numbered blank that nothing is given for. -/
  | numberedBlank
  /-- A text has a blank of that name that nothing is given for. -/
  | namedBlank (name : Text)
  /-- Bytes begin with one that begins no character. -/
  | undecodable (byte : UInt8)
  /-- A tuple holds something that cannot be hashed. -/
  | unhashable

inductive Call where
  /-- It is answered by something other than a stack. -/
  | complete
  /-- It is answered like that unless the owner has a flaw. -/
  | ifSound
  | incomplete
  /-- It is the call of the owner. -/
  | asOwner

/-- What a property or a slot holds. -/
inductive Value where
  | thing (k : Kind) (flaw : Option Flaw := none)
  | kind
  /-- The thing that a bound member works on. -/
  | owner
  /-- The kind that a member is listed for. -/
  | home
  | base
  /-- A measure of the things of a kind; those of kinds themselves are large. -/
  | measure
  /-- What the thing is for, in words, if anyone has said it. -/
  | document
  /-- The arguments of a call, if they are known. -/
  | signature
  | closure
  /-- Nothing, so the member is not found. -/
  | missing

inductive Member where
  | operation (c : Call)
  | method (c : Call)
  /-- A method that works on the kind and not on a thing of it. -/
  | shared (c : Call)
  /-- A method that works on nothing but its arguments. -/
  | loose (c : Call)
  /-- Makes a thing of the kind that it is listed for, given what it needs. -/
  | maker
  | property (v : Value)
  | slot (v : Value)
  | constant (k : Kind) (flaw : Option Flaw := none)

namespace Member

/-- The member tells of the thing; any other does something with it. -/
def isData : Member → Bool
  | property _ | slot _ => true
  | operation _ | method _ | shared _ | loose _ | maker | constant _ _ => false

def call : Member → Call
  | operation c | method c | shared c | loose c => c
  | maker | property _ | slot _ | constant _ _ => .incomplete

/-- The kind of the member when it is reached from a thing. -/
def boundKind : Member → Kind
  | operation _ => .boundOperation
  | method _ | shared _ | loose _ | maker | property _ | slot _ | constant _ _ => .boundMethod

/-- The kind of the member when it is reached from the kind that has it. -/
def unboundKind : Member → Kind
  | operation _ => .operation
  | method _ | shared _ | loose _ | maker | constant _ _ => .method
  | property _ => .property
  | slot _ => .slot

end Member

namespace Kind

/-- The members that are listed for a kind. In each line the names share one meaning. -/
def listed : Kind → List (Member × String)
  | .object => [
    (.maker, "__new__"),
    (.operation .complete, "__repr__ __hash__ __str__ __init__"),
    (.operation .incomplete, "__getattribute__ __setattr__ __delattr__ __lt__ __le__ __eq__"),
    (.operation .incomplete, "__ne__ __gt__ __ge__"),
    (.method .incomplete, "__reduce_ex__ __reduce__ __format__"),
    (.method .complete, "__getstate__ __sizeof__ __dir__"),
    (.shared .complete, "__subclasshook__ __init_subclass__"),
    (.property .kind, "__class__"),
    (.constant .text, "__doc__")]
  | .kind => [
    (.maker, "__new__"),
    (.operation .complete, "__repr__"),
    (.operation .asOwner, "__call__"),
    (.operation .incomplete, "__getattribute__ __setattr__ __delattr__ __init__ __or__ __ror__"),
    (.method .complete, "mro __subclasses__ __dir__ __sizeof__"),
    (.shared .complete, "__prepare__"),
    (.method .incomplete, "__instancecheck__ __subclasscheck__"),
    (.slot (.thing .integer), "__itemsize__"),
    (.slot .measure, "__basicsize__ __weakrefoffset__ __dictoffset__"),
    (.slot (.thing .integer (some .large)), "__flags__"),
    (.slot .base, "__base__"),
    (.slot (.thing .tuple), "__mro__"),
    (.property (.thing .text), "__name__ __qualname__ __module__"),
    (.property .document, "__doc__"),
    (.property (.thing .tuple), "__bases__"),
    (.property .missing, "__abstractmethods__ __annotations__"),
    (.property (.thing .view), "__dict__"),
    (.property .signature, "__text_signature__")]
  | .module => [
    (.maker, "__new__"),
    (.operation .complete, "__repr__"),
    (.operation .incomplete, "__getattribute__ __setattr__ __delattr__ __init__"),
    (.method .complete, "__dir__"),
    (.slot (.thing .dictionary), "__dict__"),
    (.property (.thing .dictionary (some .noEntry)), "__annotations__"),
    (.constant .text, "__doc__")]
  | .record => [
    (.maker, "__new__"),
    (.operation .complete, "__repr__ __init__"),
    (.operation .incomplete, "__getattribute__ __setattr__ __delattr__ __lt__ __le__ __eq__"),
    (.operation .incomplete, "__ne__ __gt__ __ge__"),
    (.method .complete, "__reduce__"),
    (.slot (.thing .dictionary), "__dict__"),
    (.constant .text, "__doc__"),
    (.constant .nothing, "__hash__")]
  | .function => [
    (.maker, "__new__"),
    (.operation .complete, "__repr__"),
    (.operation .asOwner, "__call__"),
    (.operation .incomplete, "__get__"),
    (.slot .closure, "__closure__"),
    (.slot (.thing .nothing), "__doc__"),
    (.slot (.thing .dictionary), "__globals__ __builtins__"),
    (.slot (.thing .text), "__module__"),
    (.property (.thing .code), "__code__"),
    (.property (.thing .nothing), "__defaults__ __kwdefaults__"),
    (.property (.thing .dictionary (some .noEntry)), "__annotations__ __dict__"),
    (.property (.thing .text), "__name__ __qualname__")]
  | .integer => [
    (.maker, "__new__"),
    (.operation .complete, "__repr__ __hash__ __neg__ __pos__ __abs__ __bool__ __invert__"),
    (.operation .complete, "__int__ __float__ __index__"),
    (.operation .incomplete, "__getattribute__ __lt__ __le__ __eq__ __ne__ __gt__ __ge__"),
    (.operation .incomplete, "__add__ __radd__ __sub__ __rsub__ __mul__ __rmul__ __mod__"),
    (.operation .incomplete, "__rmod__ __divmod__ __rdivmod__ __pow__ __rpow__ __lshift__"),
    (.operation .incomplete, "__rlshift__ __rshift__ __rrshift__ __and__ __rand__ __xor__"),
    (.operation .incomplete, "__rxor__ __or__ __ror__ __floordiv__ __rfloordiv__ __truediv__"),
    (.operation .incomplete, "__rtruediv__"),
    (.method .complete, "conjugate bit_length bit_count as_integer_ratio __trunc__"),
    (.method .ifSound, "to_bytes"),
    (.method .complete, "__floor__ __ceil__ __round__ __getnewargs__ __sizeof__"),
    (.shared .incomplete, "from_bytes"),
    (.method .incomplete, "__format__"),
    (.property (.thing .integer), "real imag numerator denominator"),
    (.constant .text, "__doc__")]
  | .text => [
    (.maker, "__new__"),
    (.operation .complete, "__repr__ __hash__ __str__ __iter__ __len__"),
    (.operation .incomplete, "__getattribute__ __lt__ __le__ __eq__ __ne__ __gt__ __ge__"),
    (.operation .incomplete, "__mod__ __rmod__ __getitem__ __add__ __mul__ __rmul__"),
    (.operation .incomplete, "__contains__"),
    (.method .complete, "encode split rsplit capitalize casefold title expandtabs lower lstrip"),
    (.method .complete, "rstrip splitlines strip swapcase upper isascii islower isupper istitle"),
    (.method .complete, "isspace isdecimal isdigit isnumeric isalpha isalnum isidentifier"),
    (.method .complete, "isprintable __sizeof__ __getnewargs__"),
    (.method .ifSound, "format"),
    (.method .incomplete, "replace join center count find partition index ljust rfind rindex"),
    (.method .incomplete, "rjust rpartition translate startswith endswith removeprefix"),
    (.method .incomplete, "removesuffix zfill format_map __format__"),
    (.loose .incomplete, "maketrans"),
    (.constant .text, "__doc__")]
  | .bytes => [
    (.maker, "__new__"),
    (.operation .complete, "__repr__ __hash__ __str__ __iter__ __len__"),
    (.operation .incomplete, "__getattribute__ __lt__ __le__ __eq__ __ne__ __gt__ __ge__"),
    (.operation .incomplete, "__mod__ __rmod__ __getitem__ __add__ __mul__ __rmul__"),
    (.operation .incomplete, "__contains__"),
    (.method .ifSound, "decode"),
    (.method .complete, "__getnewargs__ __bytes__ capitalize expandtabs hex isalnum"),
    (.method .complete, "isalpha isascii isdigit islower isspace istitle isupper lower lstrip"),
    (.method .complete, "rsplit rstrip split splitlines strip swapcase title upper"),
    (.method .incomplete, "center count endswith find index join ljust partition replace"),
    (.method .incomplete, "removeprefix removesuffix rfind rindex rjust rpartition startswith"),
    (.method .incomplete, "translate zfill"),
    (.shared .incomplete, "fromhex"),
    (.loose .incomplete, "maketrans"),
    (.constant .text, "__doc__")]
  | .tuple => [
    (.maker, "__new__"),
    (.operation .complete, "__repr__ __iter__ __len__"),
    (.operation .ifSound, "__hash__"),
    (.operation .incomplete, "__getattribute__ __lt__ __le__ __eq__ __ne__ __gt__ __ge__"),
    (.operation .incomplete, "__getitem__ __add__ __mul__ __rmul__ __contains__"),
    (.method .complete, "__getnewargs__"),
    (.method .incomplete, "index count"),
    (.shared .incomplete, "__class_getitem__"),
    (.constant .text, "__doc__")]
  | .list => [
    (.maker, "__new__"),
    (.operation .complete, "__repr__ __iter__ __init__ __len__"),
    (.constant .nothing, "__hash__"),
    (.operation .incomplete, "__getattribute__ __lt__ __le__ __eq__ __ne__ __gt__ __ge__"),
    (.operation .incomplete, "__setitem__ __delitem__ __add__ __mul__ __rmul__ __contains__"),
    (.operation .incomplete, "__iadd__ __imul__"),
    (.method .incomplete, "__getitem__ append insert extend remove index count"),
    (.method .complete, "__reversed__ __sizeof__ clear copy reverse sort"),
    (.method .ifSound, "pop"),
    (.shared .incomplete, "__class_getitem__"),
    (.constant .text, "__doc__")]
  | .dictionary => [
    (.maker, "__new__"),
    (.operation .complete, "__repr__ __iter__ __init__ __len__"),
    (.constant .nothing, "__hash__"),
    (.operation .incomplete, "__getattribute__ __lt__ __le__ __eq__ __ne__ __gt__ __ge__ __or__"),
    (.operation .incomplete, "__ror__ __ior__ __setitem__ __delitem__"),
    (.method .incomplete, "__getitem__ __contains__ get setdefault pop"),
    (.method .complete, "__sizeof__ keys items values update clear copy __reversed__"),
    (.method .ifSound, "popitem"),
    (.shared .incomplete, "fromkeys __class_getitem__"),
    (.constant .text (some .numberedBlank), "__doc__")]
  | .view => [
    (.maker, "__new__"),
    (.operation .complete, "__repr__ __str__ __iter__ __len__"),
    (.operation .incomplete, "__getattribute__ __lt__ __le__ __eq__ __ne__ __gt__ __ge__ __or__"),
    (.operation .incomplete, "__ror__ __ior__ __getitem__ __contains__"),
    (.method .incomplete, "get"),
    (.method .complete, "keys values items copy __reversed__"),
    (.shared .incomplete, "__class_getitem__"),
    (.constant .nothing, "__doc__ __hash__")]
  | .nothing => [
    (.maker, "__new__"),
    (.operation .complete, "__repr__ __bool__"),
    (.constant .nothing, "__doc__")]
  | .code => [
    (.maker, "__new__"),
    (.operation .complete, "__repr__ __hash__"),
    (.operation .incomplete, "__getattribute__ __lt__ __le__ __eq__ __ne__ __gt__ __ge__"),
    (.method .complete, "__sizeof__ co_lines co_positions replace"),
    (.method .incomplete, "_varname_from_oparg"),
    (.slot (.thing .integer), "co_argcount co_posonlyargcount co_kwonlyargcount co_stacksize"),
    (.slot (.thing .integer), "co_flags co_nlocals co_firstlineno"),
    (.slot (.thing .tuple), "co_consts co_names"),
    (.slot (.thing .text), "co_filename co_name co_qualname"),
    (.slot (.thing .bytes (some (.undecodable 0xf8))), "co_linetable"),
    (.slot (.thing .bytes), "co_exceptiontable"),
    (.property (.thing .bytes (some (.undecodable 0x95))), "_co_code_adaptive co_code"),
    (.property (.thing .bytes), "co_lnotab"),
    (.property (.thing .tuple), "co_varnames co_cellvars co_freevars"),
    (.constant .text, "__doc__")]
  | .operation => [
    (.operation .complete, "__repr__"),
    (.operation .asOwner, "__call__"),
    (.operation .incomplete, "__getattribute__ __get__"),
    (.method .complete, "__reduce__"),
    (.slot .home, "__objclass__"),
    (.slot (.thing .text), "__name__"),
    (.property (.thing .text), "__qualname__"),
    (.property .document, "__doc__"),
    (.property .signature, "__text_signature__")]
  | .boundOperation => [
    (.operation .complete, "__repr__ __hash__"),
    (.operation .asOwner, "__call__"),
    (.operation .incomplete, "__getattribute__ __lt__ __le__ __eq__ __ne__ __gt__ __ge__"),
    (.method .complete, "__reduce__"),
    (.slot .owner, "__self__"),
    (.property .home, "__objclass__"),
    (.property (.thing .text), "__name__ __qualname__"),
    (.property .document, "__doc__"),
    (.property .signature, "__text_signature__")]
  | .method => [
    (.operation .complete, "__repr__"),
    (.operation .asOwner, "__call__"),
    (.operation .incomplete, "__getattribute__ __get__"),
    (.method .complete, "__reduce__"),
    (.slot .home, "__objclass__"),
    (.slot (.thing .text), "__name__"),
    (.property (.thing .text), "__qualname__"),
    (.property .document, "__doc__"),
    (.property .signature, "__text_signature__")]
  | .boundMethod => [
    (.operation .complete, "__repr__ __hash__"),
    (.operation .asOwner, "__call__"),
    (.operation .incomplete, "__getattribute__ __lt__ __le__ __eq__ __ne__ __gt__ __ge__"),
    (.method .complete, "__reduce__"),
    (.slot (.thing .nothing), "__module__"),
    (.property (.thing .text), "__name__ __qualname__"),
    (.property .document, "__doc__"),
    (.property .signature, "__text_signature__"),
    (.property .owner, "__self__")]
  | .property => [
    (.operation .complete, "__repr__"),
    (.operation .incomplete, "__getattribute__ __get__ __set__ __delete__"),
    (.slot .home, "__objclass__"),
    (.slot (.thing .text), "__name__"),
    (.property .document, "__doc__"),
    (.property (.thing .text), "__qualname__")]
  | .slot => [
    (.operation .complete, "__repr__"),
    (.operation .incomplete, "__getattribute__ __get__ __set__ __delete__"),
    (.method .complete, "__reduce__"),
    (.slot .home, "__objclass__"),
    (.slot (.thing .text), "__name__"),
    (.property .document, "__doc__"),
    (.property (.thing .text), "__qualname__")]

/-- The name is one of those that stand in the text, a blank between two. -/
def isAmong (name : Text) (names : String) : Bool := (Text.pieces ' ' names.toList).contains name

def listed? (k : Kind) (name : Text) : Option Member :=
  (k.listed.find? fun (_, names) => isAmong name names).map Prod.fst

/-- The member of a thing of the kind, and the kind that it is listed for. -/
def member? (k : Kind) (name : Text) : Option (Kind × Member) :=
  match k.listed? name with
  | some m => some (k, m)
  | none => (object.listed? name).map fun m => (object, m)

/-- A thing of the kind is made when the kind is called without arguments. -/
def madeOfNothing : Kind → Bool
  | object | record | integer | text | bytes | tuple | list | dictionary | nothing => true
  | kind | module | function | view | code => false
  | operation | boundOperation | method | boundMethod | property | slot => false

/-- Nobody has said what the operation or method is for. -/
def isUndocumented (k : Kind) (name : Text) : Bool := match k with
  | integer => isAmong name "__getnewargs__ __format__"
  | text | bytes | tuple => isAmong name "__getnewargs__"
  | code => isAmong name "__sizeof__ co_lines co_positions"
  | operation | boundOperation | method | boundMethod | slot => isAmong name "__reduce__"
  | object | kind | module | record | function | list | dictionary | view | nothing | property =>
    false

/-- Somebody has said what the property is for. -/
def isExplained (k : Kind) (name : Text) : Bool := match k with
  | object => isAmong name "__class__"
  | integer => isAmong name "real imag numerator denominator"
  | _ => false

/-- The arguments of the operation or method are not known. -/
def isUnsigned (k : Kind) (name : Text) : Bool := match k with
  | object => isAmong name "__subclasshook__ __init_subclass__"
  | kind => isAmong name "__prepare__"
  | module => isAmong name "__dir__"
  | integer => isAmong name "conjugate __trunc__ __floor__ __ceil__"
  | text => isAmong name ("count find index rfind rindex startswith endswith format format_map " ++
      "__getnewargs__")
  | bytes => isAmong name ("__getnewargs__ capitalize count endswith find index isalnum isalpha " ++
      "isascii isdigit islower isspace istitle isupper lower rfind rindex startswith swapcase " ++
      "title upper")
  | tuple => isAmong name "__class_getitem__"
  | list => isAmong name "__getitem__ __class_getitem__"
  | dictionary => isAmong name ("__getitem__ __sizeof__ keys items values update clear copy " ++
      "__class_getitem__")
  | view => isAmong name "get keys values items copy __class_getitem__ __reversed__"
  | code => isAmong name "__sizeof__ co_lines co_positions"
  | record | operation | boundOperation | method | boundMethod | slot => isAmong name "__reduce__"
  | function | nothing | property => false

/-- The arguments that make a thing of the kind are known. -/
def isSigned : Kind → Bool
  | object | module | function | tuple | list | code => true
  | kind | record | integer | text | bytes | dictionary | view | nothing => false
  | operation | boundOperation | method | boundMethod | property | slot => false

/-- What is wrong with the words that say what the method is for: they have a blank. -/
def documentFlaw? (k : Kind) (name : Text) : Option Flaw := match k with
  | text =>
    if isAmong name "format format_map" then some (.namedBlank "' and '".toList) else none
  | _ => none

end Kind

end DiagCheck.Pipeline
