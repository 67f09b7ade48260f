import TraitIndex.Json.Fault
import TraitIndex.Text.Search
import TraitIndex.Text.Utf8

/-!
Everything that can keep the index from doing what it is asked, with the words
it is reported in.
-/

namespace TraitIndex

/-- Why a text cannot be read in its format.  About YAML nothing more is
said. -/
inductive SyntaxFault where
  | json (fault : Json.Malformed)
  | yaml
  deriving DecidableEq, Repr

def SyntaxFault.wording : SyntaxFault → String
  | json fault => fault.wording
  | yaml => "YAML error"

inductive FormatFault where
  | notFragment (source : String)
  | badList (source : String) (cause : Json.Malformed)
  | notSidebar (crate : String)
  | badSidebar (crate : String) (cause : Json.Malformed)
  | sidebarNotObject (crate : String)
  | notMapping (source : String)
  | badText (format source : String) (cause : SyntaxFault)
  | unsupportedFile (suffix : String)
  deriving DecidableEq, Repr

def FormatFault.wording : FormatFault → String
  | notFragment source =>
      "Not an implementor fragment: " ++ Text.nameOr "<string>" source
  | badList source cause =>
      "Invalid implementor list in " ++ Text.nameOr "<string>" source ++ ": " ++
        cause.wording
  | notSidebar crate =>
      "Not a sidebar-items payload for crate '" ++ crate ++ "'"
  | badSidebar crate cause =>
      "Invalid sidebar items for crate '" ++ crate ++ "': " ++ cause.wording
  | sidebarNotObject crate =>
      "Sidebar items for crate '" ++ crate ++ "' must be an object"
  | notMapping source =>
      "Structured fragment " ++ Text.nameOr "<data>" source
        ++ " must be a mapping of crate to descriptors"
  | badText format source cause =>
      "Invalid " ++ format ++ " fragment " ++ Text.nameOr "<string>" source ++
        ": " ++ cause.wording
  | unsupportedFile suffix => "Unsupported fragment file type: " ++ suffix

inductive FileFault where
  | missing (path : String)
  | isDirectory (path : String)
  | notDirectory (path : String)
  | nameTooLong (path : String)
  /-- The path holds the character that would end it. -/
  | nullByte
  | notText (fault : Text.Utf8Fault)
  deriving DecidableEq, Repr

def FileFault.wording : FileFault → String
  | missing path => "[Errno 2] No such file or directory: " ++ Text.quoted path
  | isDirectory path => "[Errno 21] Is a directory: " ++ Text.quoted path
  | notDirectory path => "[Errno 20] Not a directory: " ++ Text.quoted path
  | nameTooLong path => "[Errno 36] File name too long: " ++ Text.quoted path
  | nullByte => "embedded null byte"
  | notText fault => fault.wording

inductive LifecycleFault where
  | alreadyInitialized
  | alreadyLive
  deriving DecidableEq, Repr

def LifecycleFault.wording : LifecycleFault → String
  | alreadyInitialized => "Registry is already initialized"
  | alreadyLive => "Delivery channel already has an entry point installed"

inductive ConfigFault where
  | badText (path : String)
  | notMapping (path : String)
  | missing (path : String)
  | notWhole (shown : String)
  | negative (count : Int)
  | badLevel (shown : String)
  deriving DecidableEq, Repr

def ConfigFault.wording : ConfigFault → String
  | badText path =>
      "Invalid YAML in " ++ path ++ ": " ++ SyntaxFault.yaml.wording
  | notMapping path => path ++ ": top level must be a mapping"
  | missing path => "Config file not found: " ++ path
  | notWhole shown => "expected_fragments must be an integer, got " ++ shown
  | negative count =>
      "expected_fragments must not be negative, got " ++ toString count
  | badLevel shown =>
      "Invalid log_level '" ++ shown ++ "'. Must be one of: "
        ++ "['CRITICAL', 'DEBUG', 'ERROR', 'INFO', 'WARNING']"

inductive Fault where
  | format (fault : FormatFault)
  | file (fault : FileFault)
  | value (fault : ValueFault)
  | lifecycle (fault : LifecycleFault)
  | config (fault : ConfigFault)
  | notBelow (path directory : String)
  | notPath (kind : String)
  | infiniteCount
  /-- The stack is used up. -/
  | recursion
  /-- A text with a lone surrogate is to be encoded. -/
  | notEncodable
  /-- The console cannot show something, for a reason of its own. -/
  | console (message : String)
  deriving DecidableEq, Repr

def Fault.wording : Fault → String
  | format fault => fault.wording
  | file fault => fault.wording
  | value fault => fault.wording
  | lifecycle fault => fault.wording
  | config fault => fault.wording
  | notBelow path directory =>
      Text.quoted path ++ " is not in the subpath of " ++ Text.quoted directory
        ++ " OR one path is relative and the other is absolute."
  | notPath kind =>
      if kind = "bytes" then
        "argument should be a str object or an os.PathLike object "
          ++ "returning str, not <class 'bytes'>"
      else "expected str, bytes or os.PathLike object, not " ++ kind
  | infiniteCount => "cannot convert float infinity to integer"
  | recursion => "maximum recursion depth exceeded"
  | notEncodable => "surrogates not allowed"
  | console message => message

def liftValue {α : Type} (result : Except ValueFault α) : Except Fault α :=
  result.mapError .value

end TraitIndex
