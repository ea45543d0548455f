import ApiGateway.Files.Tree
import ApiGateway.Tls.Key

/-!
# Who the listener is

A listener that speaks TLS needs a private key and a chain of certificates, of which the
first has to be about that key. `Identity.load` reads both from files and says what is
wrong first.
-/

namespace ApiGateway.Tls

/-- A private key with the certificates for it. -/
structure Identity where
  key : Section
  certificate : List UInt8
  chain : List (List UInt8)

/-- Why there is no identity. -/
inductive IdentityError where
  | openKey (error : IoError)
  | openCertificate (error : IoError)
  | readCertificate
  | noCertificate
  | readKey
  | noKey
  | mismatch
deriving DecidableEq

namespace IdentityError

def message : IdentityError → String
  | openKey error => "Failed to open private key file: " ++ error.message
  | openCertificate error => "Failed to open certificate file: " ++ error.message
  | readCertificate => "Failed to read certificate: "
  | noCertificate => "No valid certificate found"
  | readKey => "Failed to read private key: "
  | noKey => "No valid private key found"
  | mismatch => "Failed to create TLS config: "

end IdentityError

namespace Identity

/-- The key belongs to the certificate. -/
def isConsistent (identity : Identity) : Bool :=
  match PublicKey.ofPrivateKey? identity.key, PublicKey.ofCertificate? identity.certificate with
  | some fromKey, some fromCertificate => fromKey = fromCertificate
  | _, _ => false

/-- The sections of a file; nothing can be read from a directory. -/
def sectionsAt (files : FileTree) (path : String) : Armor :=
  match files.readBytes path with
  | .ok content => .read content
  | .error _ => ⟨[], false⟩

/-- Both files are opened before either is read, and the certificates are read first. -/
def load (files : FileTree) (keyPath certificatePath : String) :
    Except IdentityError Identity := do
  files.check keyPath |>.mapError .openKey
  files.check certificatePath |>.mapError .openCertificate
  match (sectionsAt files certificatePath).certificates? with
  | none => .error .readCertificate
  | some [] => .error .noCertificate
  | some (certificate :: chain) =>
    match (sectionsAt files keyPath).privateKey? with
    | none => .error .readKey
    | some none => .error .noKey
    | some (some key) =>
      let identity : Identity := ⟨key, certificate, chain⟩
      if identity.isConsistent then .ok identity else .error .mismatch

end Identity

end ApiGateway.Tls
