import Wirelog.Authority.Pem
import Wirelog.Text.Ascii
/-!
The authority that vouches for intercepted hosts. It signs a leaf certificate for each host on
demand and keeps it, so that a host has one leaf as long as the authority lives. What keys and
certificates hold is the concern of a toolkit; here only their identity counts.
-/
namespace Wirelog

/-- A toolkit of keys and certificates. -/
structure Toolkit where
  /-- The texts of the certificate and the key of the authority generated with a number. -/
  authority : Nat → String × String
  /-- Whether a text holds a key. -/
  parses : String → Bool
  /-- Whether leaf certificates can be signed with the key that a text holds. -/
  signs : String → Bool
  /-- A key that was generated can be read again. -/
  parses_authority : ∀ n, parses (authority n).2 = true

namespace Authority

/-- Why there is no authority. -/
inductive Failure where
  /-- A file could not be read. -/
  | unreadableCertificate
  | unreadableKey
  /-- The key is none. -/
  | badKey
  /-- There is no certificate in its file. -/
  | noCertificate
  /-- The certificate is damaged. -/
  | badCertificate
  /-- A file or its folder could not be written, for a reason that the system gives. -/
  | unwritable (reason : String)
  /-- The key does not sign leaf certificates. -/
  | cannotSign
deriving DecidableEq

/-- The failure in words. -/
def Failure.message : Failure → String
  | unreadableCertificate => "failed to read CA cert"
  | unreadableKey => "failed to read CA key"
  | badKey => "failed to parse CA key pair from PEM"
  | noCertificate => "no certificate found in CA PEM"
  | badCertificate => "failed to parse CA certificate"
  | unwritable reason => reason
  | cannotSign => "CA cannot sign leaf certificates"

/-- A leaf certificate, known by its number. -/
abbrev Leaf := Nat

end Authority

/-- `CertificateAuthority`: an authority. -/
structure Authority where
  /-- Its certificate as text. -/
  certificate : String
  /-- Its key as text. -/
  key : String
  /-- The leaves by host names in lower case, each name once. -/
  leaves : List (String × Authority.Leaf) := []

namespace Authority

/-- Checks the text of a certificate: its first section that is one has to be whole. -/
def checkCertificate (text : String) : Except Failure Unit :=
  go (Pem.sections text)
where
  /-- Looks for the first certificate. -/
  go : List (Except Pem.Damage Pem.Section) → Except Failure Unit
    | [] => .error .noCertificate
    | .error _ :: _ => .error .badCertificate
    | .ok s :: rest => if s.label = "CERTIFICATE" then .ok () else go rest

/-- `CertificateAuthority::from_parts`: an authority from the texts of its certificate and its key. -/
def ofParts (certificate key : String) : Except Failure Authority := do
  checkCertificate certificate
  return { certificate, key }

/-- `CertificateAuthority::self_test`: the authority, if it can sign leaf certificates. -/
def tested (t : Toolkit) (a : Authority) : Except Failure Authority :=
  if t.signs a.key then .ok a else .error .cannotSign

/-- `CertificateAuthority::mint`: whether a leaf can be made for a name: certificates hold ASCII
names only. -/
def canMint (domain : String) : Bool :=
  domain.toList.all fun c => c.toNat < 128

/-- The leaf that is kept for a name in lower case. -/
def leaf? (a : Authority) (name : String) : Option Leaf :=
  (a.leaves.find? (·.1 == name)).map Prod.snd

/-- Keeps a leaf, unless one has been kept for the name already: the leaf that is kept then. -/
def keep (a : Authority) (name : String) (leaf : Leaf) : Authority × Leaf :=
  match a.leaf? name with
  | some kept => (a, kept)
  | none => ({ a with leaves := a.leaves ++ [(name, leaf)] }, leaf)

/-- `CertificateAuthority::gen_cert_for_domain`: the leaf for a host. `fresh` is the number of the
leaf that is made when none is kept. -/
def leafFor (a : Authority) (fresh : Leaf) (domain : String) : Option (Authority × Leaf) :=
  let name := Text.asciiLower domain
  match a.leaf? name with
  | some leaf => some (a, leaf)
  | none => if canMint name then some (a.keep name fresh) else none

end Authority
end Wirelog
