import Wirelog.Authority.Basic
/-!
The two files of an authority. When both are found, the authority is read from them; otherwise a
new one is generated and written to both. Each operation on a file may fail on its own, and a write
that breaks off leaves a front of what was to be written.
-/
namespace Wirelog.Authority

/-- The contents of the two files, as far as they exist. -/
structure Files where
  /-- The certificate. -/
  certificate : Option Bytes := none
  /-- The key. -/
  key : Option Bytes := none
deriving DecidableEq

/-- What becomes of writing a file. -/
inductive Writing where
  /-- The file holds the new content. -/
  | whole
  /-- It could not be opened, for a reason, and is as it was. -/
  | refused (reason : String)
  /-- It was emptied, and took some octets before the writing broke off for a reason. -/
  | broken (octets : Nat) (reason : String)
deriving DecidableEq

/-- Why a file was not written as a whole. -/
def Writing.failure? : Writing → Option String
  | whole => none
  | refused reason | broken _ reason => some reason

/-- A file after some content was to be written to it. -/
def Writing.leaves (content : Bytes) (file : Option Bytes) : Writing → Option Bytes
  | whole => some content
  | refused _ => file
  | broken octets _ => some (content.extract 0 octets)

/-- What becomes of the operations on files. -/
structure Access where
  /-- Finding the certificate, when it is there. -/
  findCertificate : Bool := true
  /-- Finding the key, when it is there. -/
  findKey : Bool := true
  /-- Reading the certificate. -/
  readCertificate : Bool := true
  /-- Reading the key. -/
  readKey : Bool := true
  /-- Why the folders of the files cannot be made, if they cannot. -/
  foldersFail : Option String := none
  /-- Writing the certificate. -/
  writeCertificate : Writing := .whole
  /-- Writing the key. -/
  writeKey : Writing := .whole
deriving DecidableEq

/-- Both files are found. -/
def Files.areFound (f : Files) (access : Access) : Bool :=
  (f.certificate.isSome && access.findCertificate) && (f.key.isSome && access.findKey)

/-- Reads a file as text. -/
def readText (allowed : Bool) (failure : Failure) (content : Option Bytes) :
    Except Failure String :=
  match content.bind Bytes.toText? with
  | some s => if allowed then .ok s else .error failure
  | none => .error failure

/-- `CertificateAuthority::load`: reads an authority from its files, and its key before its
certificate is looked at. -/
def load (t : Toolkit) (access : Access) (f : Files) : Except Failure Authority := do
  let certificate ← readText access.readCertificate .unreadableCertificate f.certificate
  let key ← readText access.readKey .unreadableKey f.key
  if t.parses key then ofParts certificate key else .error .badKey

/-- `CertificateAuthority::ephemeral`: generates an authority with a number that is not written
down. -/
def generate (t : Toolkit) (fresh : Nat) : Except Failure Authority := do
  tested t (← ofParts (t.authority fresh).1 (t.authority fresh).2)

/-- `CertificateAuthority::generate_and_save`: generates an authority and writes it to its files,
the certificate first. -/
def generateInto (t : Toolkit) (access : Access) (fresh : Nat) (f : Files) :
    Files × Except Failure Authority :=
  let (certificate, key) := t.authority fresh
  match access.foldersFail with
  | some reason => (f, .error (.unwritable reason))
  | none =>
    let f := { f with
      certificate := access.writeCertificate.leaves (Bytes.ofText certificate) f.certificate }
    match access.writeCertificate.failure? with
    | some reason => (f, .error (.unwritable reason))
    | none =>
      let f := { f with key := access.writeKey.leaves (Bytes.ofText key) f.key }
      match access.writeKey.failure? with
      | some reason => (f, .error (.unwritable reason))
      | none => (f, ofParts certificate key)

/-- `CertificateAuthority::load_or_generate`: reads the authority if both files are found, and
generates it otherwise. In either case it has to be able to sign. -/
def acquire (t : Toolkit) (access : Access) (fresh : Nat) (f : Files) :
    Files × Except Failure Authority :=
  let (f, r) := if f.areFound access then (f, load t access f) else generateInto t access fresh f
  (f, r.bind (tested t))

end Wirelog.Authority
