import TraitIndex.Digest.Sha1
import TraitIndex.Implementor.Record
import TraitIndex.Text.Utf8

/-!
Names for fragments that bring none.

Such a fragment is named after what it states: the digest of the sorted
identities of its valid records, each written in quotation marks, so that
different sets of identities are written differently.
-/

namespace TraitIndex

def Identity.written (identity : Identity) : String :=
  "(" ++ ", ".intercalate
    [Text.quoted identity.traitName, Text.quoted identity.owningCrate,
      Text.quoted identity.implementingType,
      Text.quoted identity.constraintText] ++ ")"

def sortedIdentities (identities : List Identity) : List Identity :=
  identities.eraseDups.mergeSort Identity.le

def contentText (identities : List Identity) : String :=
  "[" ++ ", ".intercalate ((sortedIdentities identities).map (·.written)) ++ "]"

/-- The name of a fragment whose valid records have the given identities. -/
def contentId (identities : List Identity) : String :=
  "content:" ++ String.ofList
    ((Digest.sha1 (Text.encodeUtf8 (contentText identities).toList)).take 16)

end TraitIndex
