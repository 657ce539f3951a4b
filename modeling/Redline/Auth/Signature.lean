import Redline.Digest.Sha256
import Redline.Text.Bytes

/-!
# Signed requests

A request is signed by a header that gives the keyed digest of its body under a
shared secret.
-/

namespace Redline.Auth

open Text (utf8)

/-- The digest of a body under a secret, in hexadecimal digits. -/
def digestText (secret : String) (body : List UInt8) : Text :=
  Digest.hexText (Digest.hmac (utf8 secret) body)

def signatureHeader (secret : String) (body : List UInt8) : Text :=
  "sha256=".toList ++ digestText secret body

/-- Whether a header signs a body.  It has to be one name and one value around
a single equals sign. -/
def verify (secret : Option String) (body : List UInt8) (header : Option String) : Bool :=
  match secret, header with
  | some secret, some header =>
      match Text.splitOn header.toList ['='] with
      | [name, value] => name == "sha256".toList && value == digestText secret body
      | _ => false
  | _, _ => false

end Redline.Auth
