import DiagCheck.Config.File
import DiagCheck.Yaml.Value

/-!
# A loader of configuration files

A loader for the part of YAML that configurations are commonly written in. It does not know tags,
anchors, aliases, directives, merge keys and dates, and it gives no details of what is malformed.
-/

namespace DiagCheck.Yaml

open Compiler (Failure)

namespace Fault

/-- Numbers from here on do not even have the size of a code point. -/
def codeLimit : Nat := 0x80000000

def failure (name : String) (message : Text) : Config.LoadFault :=
  .failure (.ofName name.toList false (some message))

def toLoadFault : Fault → Config.LoadFault
  | malformed | unfinished => .malformed "The text is malformed.".toList
  | notEncoded origin d => failure "UnicodeDecodeError" (d.message origin)
  | numeralTooLong digits => failure "ValueError" (Numeral.tooLongToRead digits)
  | noDigits base => failure "ValueError"
      ("invalid literal for int() with base ".toList ++ Numeral.ofNat base ++ ": ''".toList)
  | weightTooLarge => failure "OverflowError" "int too large to convert to float".toList
  | noCodePoint number =>
    if number < codeLimit then failure "ValueError" "chr() arg not in range(0x110000)".toList
    else failure "OverflowError" "Python int too large to convert to C int".toList

end Fault

def load : Config.Loader := fun _ bytes => (valueOf (.ofBytes bytes)).mapError Fault.toLoadFault

end DiagCheck.Yaml
