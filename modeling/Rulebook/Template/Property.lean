import Rulebook.Value.Printer

/-!
# Properties of values

The names of the properties that each kind of value has. Those that start with a low line are never handed
out, but they count as present.
-/

namespace Rulebook.Template

/-- The words of a text. -/
def wordsOf (s : String) : List Text :=
  let t := Text.ofString s
  let (last, done) := t.foldl
    (fun (word, done) c =>
      if Text.isSpace c then (([] : Text), if word.isEmpty then done else word.reverse :: done)
      else (c :: word, done))
    (([] : Text), ([] : List Text))
  ((if last.isEmpty then done else last.reverse :: done)).reverse

/-- The properties that every value has. -/
def commonProperties : List Text := wordsOf
    "__class__ __delattr__ __dir__ __doc__ __eq__ __format__ __ge__ __getattribute__ __getstate__
    __gt__ __hash__ __init__ __init_subclass__ __le__ __lt__ __ne__ __new__ __reduce__
    __reduce_ex__ __repr__ __setattr__ __sizeof__ __str__ __subclasshook__"

/-- The further properties of nothing. -/
def nullProperties : List Text := wordsOf
    "__bool__"

/-- The further properties of integers and truth values. -/
def intProperties : List Text := wordsOf
    "__abs__ __add__ __and__ __bool__ __ceil__ __divmod__ __float__ __floor__ __floordiv__
    __getnewargs__ __index__ __int__ __invert__ __lshift__ __mod__ __mul__ __neg__ __or__ __pos__
    __pow__ __radd__ __rand__ __rdivmod__ __rfloordiv__ __rlshift__ __rmod__ __rmul__ __ror__
    __round__ __rpow__ __rrshift__ __rshift__ __rsub__ __rtruediv__ __rxor__ __sub__ __truediv__
    __trunc__ __xor__ as_integer_ratio bit_count bit_length conjugate denominator from_bytes imag
    numerator real to_bytes"

/-- The further properties of doubles. -/
def floatProperties : List Text := wordsOf
    "__abs__ __add__ __bool__ __ceil__ __divmod__ __float__ __floor__ __floordiv__ __getformat__
    __getnewargs__ __int__ __mod__ __mul__ __neg__ __pos__ __pow__ __radd__ __rdivmod__
    __rfloordiv__ __rmod__ __rmul__ __round__ __rpow__ __rsub__ __rtruediv__ __sub__ __truediv__
    __trunc__ as_integer_ratio conjugate fromhex hex imag is_integer real"

/-- The further properties of texts. -/
def textProperties : List Text := wordsOf
    "__add__ __contains__ __getitem__ __getnewargs__ __iter__ __len__ __mod__ __mul__ __rmod__
    __rmul__ capitalize casefold center count encode endswith expandtabs find format format_map
    index isalnum isalpha isascii isdecimal isdigit isidentifier islower isnumeric isprintable
    isspace istitle isupper join ljust lower lstrip maketrans partition removeprefix removesuffix
    replace rfind rindex rjust rpartition rsplit rstrip split splitlines startswith strip swapcase
    title translate upper zfill"

/-- The further properties of bytes. -/
def bytesProperties : List Text := wordsOf
    "__add__ __bytes__ __contains__ __getitem__ __getnewargs__ __iter__ __len__ __mod__ __mul__
    __rmod__ __rmul__ capitalize center count decode endswith expandtabs find fromhex hex index
    isalnum isalpha isascii isdigit islower isspace istitle isupper join ljust lower lstrip
    maketrans partition removeprefix removesuffix replace rfind rindex rjust rpartition rsplit
    rstrip split splitlines startswith strip swapcase title translate upper zfill"

/-- The further properties of byte arrays. -/
def byteArrayProperties : List Text := wordsOf
    "__add__ __alloc__ __contains__ __delitem__ __getitem__ __iadd__ __imul__ __iter__ __len__
    __mod__ __mul__ __rmod__ __rmul__ __setitem__ append capitalize center clear copy count decode
    endswith expandtabs extend find fromhex hex index insert isalnum isalpha isascii isdigit
    islower isspace istitle isupper join ljust lower lstrip maketrans partition pop remove
    removeprefix removesuffix replace reverse rfind rindex rjust rpartition rsplit rstrip split
    splitlines startswith strip swapcase title translate upper zfill"

/-- The further properties of lists. -/
def listProperties : List Text := wordsOf
    "__add__ __class_getitem__ __contains__ __delitem__ __getitem__ __iadd__ __imul__ __iter__
    __len__ __mul__ __reversed__ __rmul__ __setitem__ append clear copy count extend index insert
    pop remove reverse sort"

/-- The further properties of tuples. -/
def tupleProperties : List Text := wordsOf
    "__add__ __class_getitem__ __contains__ __getitem__ __getnewargs__ __iter__ __len__ __mul__
    __rmul__ count index"

/-- The further properties of sets. -/
def setProperties : List Text := wordsOf
    "__and__ __class_getitem__ __contains__ __iand__ __ior__ __isub__ __iter__ __ixor__ __len__
    __or__ __rand__ __ror__ __rsub__ __rxor__ __sub__ __xor__ add clear copy difference
    difference_update discard intersection intersection_update isdisjoint issubset issuperset pop
    remove symmetric_difference symmetric_difference_update union update"

/-- The further properties of frozen sets. -/
def frozenSetProperties : List Text := wordsOf
    "__and__ __class_getitem__ __contains__ __iter__ __len__ __or__ __rand__ __ror__ __rsub__
    __rxor__ __sub__ __xor__ copy difference intersection isdisjoint issubset issuperset
    symmetric_difference union"

/-- The further properties of mappings. -/
def mappingProperties : List Text := wordsOf
    "__class_getitem__ __contains__ __delitem__ __getitem__ __ior__ __iter__ __len__ __or__
    __reversed__ __ror__ __setitem__ clear copy fromkeys get items keys pop popitem setdefault
    update values"

/-- The further properties of ranges. -/
def rangeProperties : List Text := wordsOf
    "__bool__ __contains__ __getitem__ __iter__ __len__ __reversed__ count index start step stop"

/-- The further properties of dates. -/
def dateProperties : List Text := wordsOf
    "__add__ __radd__ __rsub__ __sub__ ctime day fromisocalendar fromisoformat fromordinal
    fromtimestamp isocalendar isoformat isoweekday max min month replace resolution strftime
    timetuple today toordinal weekday year"

/-- The further properties of times of day. -/
def timeProperties : List Text := wordsOf
    "dst fold fromisoformat hour isoformat max microsecond min minute replace resolution second
    strftime tzinfo tzname utcoffset"

/-- The further properties of moments. -/
def dateTimeProperties : List Text := wordsOf
    "__add__ __radd__ __rsub__ __sub__ astimezone combine ctime date day dst fold fromisocalendar
    fromisoformat fromordinal fromtimestamp hour isocalendar isoformat isoweekday max microsecond
    min minute month now replace resolution second strftime strptime time timestamp timetuple
    timetz today toordinal tzinfo tzname utcfromtimestamp utcnow utcoffset utctimetuple weekday
    year"

/-- The further properties of views. -/
def viewProperties : List Text := wordsOf
    "__and__ __contains__ __iter__ __len__ __or__ __rand__ __reversed__ __ror__ __rsub__ __rxor__
    __sub__ __xor__ isdisjoint mapping"

/-- The further properties of what is undefined. -/
def undefinedProperties : List Text := wordsOf
    "__add__ __bool__ __call__ __complex__ __div__ __float__ __floordiv__ __getattr__ __getitem__
    __int__ __iter__ __len__ __mod__ __module__ __mul__ __neg__ __pos__ __pow__ __radd__ __rdiv__
    __rfloordiv__ __rmod__ __rmul__ __rpow__ __rsub__ __rtruediv__ __slots__ __sub__ __truediv__
    _fail_with_undefined_error _undefined_exception _undefined_hint _undefined_message
    _undefined_name _undefined_obj"

/-- The further properties of a value of its kind. -/
def ownProperties : Value → List Text
  | .null => nullProperties
  | .bool _ => intProperties
  | .int _ => intProperties
  | .float _ => floatProperties
  | .text _ => textProperties
  | .bytes _ => bytesProperties
  | .byteArray _ => byteArrayProperties
  | .list _ => listProperties
  | .tuple _ => tupleProperties
  | .set _ => setProperties
  | .frozenSet _ => frozenSetProperties
  | .mapping _ => mappingProperties
  | .range .. => rangeProperties
  | .date _ => dateProperties
  | .time _ => timeProperties
  | .dateTime .. => dateTimeProperties
  | .view .. => viewProperties
  | .undefined u => if u.strict then "__contains__" :: undefinedProperties else undefinedProperties
  | .record _ _ fields => fields.map (·.1)
  | _ => []

/-- The value has a property of this name. -/
def hasProperty (v : Value) (name : Text) : Bool :=
  (ownProperties v).any (Text.same name) || commonProperties.any (Text.same name)

/-- The names of the properties that would change a value. -/
def changingProperties : Value → List Text
  | .list _ => wordsOf "append clear pop reverse insert sort extend remove"
  | .byteArray _ => wordsOf "append clear pop reverse insert sort extend remove"
  | .mapping _ => wordsOf "clear pop popitem setdefault update"
  | .set _ => wordsOf
    "add clear difference_update discard pop remove symmetric_difference_update update"
  | _ => []

/-- The property may be handed out: it is no internal one and changes nothing. -/
def isSafeProperty (v : Value) (name : Text) : Bool :=
  name.head? != some 0x5f && !(changingProperties v).any (Text.same name)

end Rulebook.Template
