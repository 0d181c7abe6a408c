import TagOrigin.Display.Markup
import TagOrigin.Encoding.Names
import TagOrigin.Files.Path
import TagOrigin.Glob.Expression

/-!
Everything that can end a request without a result, by cause. The wording stands in one place.
-/
namespace TagOrigin

inductive Failure where
  /-- The file system refused. -/
  | file (fault : Files.Fault)
  /-- A path or a variable holds the character that ends texts in the operating system. -/
  | nullByte
  /-- The name of an encoding holds that character. -/
  | nullCharacter
  /-- The name of a variable holds an equals sign. -/
  | illegalVariable
  /-- The name of a variable is empty. -/
  | unnamedVariable
  | encoding (fault : Encoding.Fault)
  /-- A variables file is not UTF-8. -/
  | undecodable (fault : Encoding.Utf8.Fault)
  | pattern (fault : Glob.Fault)
  | markup (fault : Display.Markup.Fault)
  /-- Configured extensions that lack their point. -/
  | extensions (entries : List Text)
  /-- A configured encoding that nobody knows. -/
  | unknownEncoding (name : Text)
  deriving DecidableEq, Repr

namespace Failure

def message : Failure → Text
  | .file fault => fault.message
  | .nullByte => "embedded null byte".toList
  | .nullCharacter => "embedded null character".toList
  | .illegalVariable => "illegal environment variable name".toList
  | .unnamedVariable => "[Errno 22] Invalid argument".toList
  | .encoding fault => fault.message
  | .undecodable fault => fault.message
  | .pattern fault => fault.message
  | .markup fault => fault.message
  | .extensions entries =>
    "TAGSCOPE_EXTENSIONS entries must start with '.': ".toList ++ Text.join ", ".toList entries
  | .unknownEncoding name =>
    "TAGSCOPE_ENCODING is not a known encoding: ".toList ++ name

/-- Whether the failure says that a configured value is wrong, which a command reports and does not
pass on. -/
def isInvalidValue : Failure → Bool
  | .nullByte | .nullCharacter | .illegalVariable | .undecodable _ | .extensions _
  | .unknownEncoding _ => true
  | _ => false

end Failure

end TagOrigin
