import ApiGateway.Crypto.Base64
import ApiGateway.Text.Chars

/-!
# Armored files

A key file is a text with sections: a line that begins one, the bytes in sixty-four
characters, and a line that ends it. Text outside sections says nothing. `Armor.read`
gives the sections up to the first that is broken.
-/

namespace ApiGateway.Tls

/-- What a section holds. -/
inductive SectionKind where
  | certificate
  | publicKey
  /-- A private key without and with the name of its kind inside. -/
  | rsaPrivateKey
  | ecPrivateKey
  | privateKey
  | revocationList
  | certificateRequest
  | clientHelloConfig
deriving DecidableEq

namespace SectionKind

def ofLabel? (label : String) : Option SectionKind :=
  match label with
  | "CERTIFICATE" => some certificate
  | "PUBLIC KEY" => some publicKey
  | "RSA PRIVATE KEY" => some rsaPrivateKey
  | "EC PRIVATE KEY" => some ecPrivateKey
  | "PRIVATE KEY" => some privateKey
  | "X509 CRL" => some revocationList
  | "CERTIFICATE REQUEST" => some certificateRequest
  | "ECHCONFIG" => some clientHelloConfig
  | _ => none

def isPrivateKey : SectionKind → Bool
  | rsaPrivateKey | ecPrivateKey | privateKey => true
  | _ => false

end SectionKind

/-- A section with its content. -/
structure Section where
  kind : SectionKind
  content : List UInt8
deriving DecidableEq

/-- The sections of a file in their order, and whether it was read to its end. -/
structure Armor where
  sections : List Section
  complete : Bool

namespace Armor

/-- The lines of a text, each with the character that ends it: a line feed or a carriage
return. -/
def lines : List Char → List (List Char)
  | [] => []
  | c :: rest =>
    if c = '\n' || c = '\r' then [c] :: lines rest
    else match lines rest with
      | [] => [[c]]
      | line :: others => (c :: line) :: others

/-- The label of a line that begins a section, given what follows its opening; five dashes have
to end it, with blanks anywhere among and after them. -/
def label? (rest : List Char) : Option (List Char) :=
  let isTail (c : Char) : Bool := c = '-' || c = '\n' || c = '\r' || c = ' '
  let tail := rest.reverse.takeWhile isTail
  if tail.count '-' = 5 then
    let afterLabel := tail.reverse.dropWhile (· ≠ '-')
    some (rest.take (rest.length - afterLabel.length))
  else none

/-- The bytes that a section's characters stand for. -/
def decodeBody? (body : List Char) : Option (List UInt8) :=
  Crypto.Alphabet.keyFile.decode?
    (body.filter fun c => !(c = ' ' || c = '\t' || c = '\n' || c = '\r'))

/-- Read lines inside a section of some label, or outside of any. `body` holds the
characters of the section so far. -/
def readLines (open? : Option (List Char)) (body : List Char) : List (List Char) → Armor
  | [] => ⟨[], open?.isNone⟩
  | line :: rest =>
    match Text.dropPrefix? "-----BEGIN ".toList line with
    | some opening =>
      match label? opening with
      | some label => readLines (some label) body rest
      | none => ⟨[], false⟩
    | none =>
      match open? with
      | none => readLines none body rest
      | some label =>
        if ("-----END ".toList ++ label ++ "-----".toList).isPrefixOf line then
          match SectionKind.ofLabel? (String.ofList label) with
          | none => readLines none [] rest
          | some kind =>
            match decodeBody? body with
            | none => ⟨[], false⟩
            | some content =>
              let armor := readLines none [] rest
              { armor with sections := ⟨kind, content⟩ :: armor.sections }
        else readLines (some label) (body ++ line) rest

/-- The sections of a file. -/
def read (content : ByteArray) : Armor :=
  readLines none [] (lines (content.data.toList.map fun byte => Char.ofNat byte.toNat))

/-- All certificates, unless the file is broken. -/
def certificates? (armor : Armor) : Option (List (List UInt8)) :=
  if armor.complete then
    some ((armor.sections.filter fun part => part.kind = .certificate).map (·.content))
  else none

/-- The first private key: `none` if the file is broken before one is found. -/
def privateKey? (armor : Armor) : Option (Option Section) :=
  match armor.sections.find? fun part => part.kind.isPrivateKey with
  | some key => some (some key)
  | none => if armor.complete then some none else none

end Armor

end ApiGateway.Tls
