import Accounts.Breakage
import Accounts.Json.Reader
import Accounts.Encoding.Base64
import Accounts.Crypto.Suite

/-! # Keys from secrets

A token is signed with the bytes of the secret as it stands. For checking, a secret that is JSON
text stands for the keys in it: the items of a list, the values or the `keys` of an object, or a
single key object. Any other secret is its own key, so that signing and checking agree for it; JSON
that is nested too deep is not read and counts as any other secret.
-/
namespace Accounts.Token

def armourLabels : List String :=
  ["CERTIFICATE", "TRUSTED CERTIFICATE", "PRIVATE KEY", "PUBLIC KEY", "ENCRYPTED PRIVATE KEY",
    "OPENSSH PRIVATE KEY", "DSA PRIVATE KEY", "RSA PRIVATE KEY", "RSA PUBLIC KEY", "EC PRIVATE KEY",
    "DH PARAMETERS", "NEW CERTIFICATE REQUEST", "CERTIFICATE REQUEST", "SSH2 PUBLIC KEY",
    "SSH2 ENCRYPTED PRIVATE KEY", "X509 CRL"]

def shellFormats : List String :=
  ["ssh-ed25519", "ssh-rsa", "ssh-dss", "ecdsa-sha2-nistp256", "ecdsa-sha2-nistp384",
    "ecdsa-sha2-nistp521"]

def certificateEnding : String := "-cert-v01@openssh.com"

def occursIn (pattern : List Char) : List Char → Bool
  | [] => pattern.isEmpty
  | c :: r => pattern.isPrefixOf (c :: r) || occursIn pattern r

/-- The first line of an armoured text; each gap is a hyphen or a space. -/
def armourLine (gap1 gap2 : Char) (label : String) : List Char :=
  "----".toList ++ gap1 :: "BEGIN ".toList ++ label.toList ++ gap2 :: "----".toList

def isArmoured (cs : List Char) : Bool :=
  armourLabels.any fun label =>
    ['-', ' '].any fun gap1 => ['-', ' '].any fun gap2 => occursIn (armourLine gap1 gap2 label) cs

def isAsciiBlank (c : Char) : Bool :=
  c == ' ' || (9 ≤ c.toNat && c.toNat ≤ 13)

/-- The text starts with a word that names a certificate's format, followed by another word. -/
def isShellCertificate (cs : List Char) : Bool :=
  let word := cs.takeWhile (!isAsciiBlank ·)
  let rest := cs.dropWhile (!isAsciiBlank ·)
  let next := rest.dropWhile fun c => c == ' ' || c == '\t'
  certificateEnding.toList.isSuffixOf word && next.length < rest.length &&
    next.head?.any (!isAsciiBlank ·)

def isAsymmetric (s : String) : Bool :=
  isArmoured s.toList || shellFormats.any (fun f => occursIn f.toList s.toList) ||
    isShellCertificate s.toList

def textKey (s : String) : Except KeyFault Bytes :=
  if isAsymmetric s then .error .asymmetric else .ok (Text.utf8 s)

def signingKey (secret : String) : Except KeyFault Bytes :=
  textKey secret

def stringBytes (t : LooseText) : Except Breakage Bytes :=
  match t.string? with
  | some s => .ok (Text.utf8 s)
  | none => .error .encoding

def objectKey (ms : Json.Members) : Except Breakage Bytes :=
  if (ms.get? "kty").bind Json.string? = some "oct" then
    match ms.get? "k" with
    | some (.text k) => do
      let letters ← stringBytes k
      (Encoding.Base64.decode letters).mapError .base64
    | _ => .error .member
  else .error (.key (.notOctets (ms.get? "kty")))

def keyBytes : Json → Except Breakage Bytes
  | .object ms => objectKey ms
  | .text t =>
    match t.string? with
    | some s => (textKey s).mapError .key
    | none => .error .encoding
  | _ => .error (.key .notText)

def listedKeys : Json → Except Breakage (List Json)
  | .list items => .ok items
  | .text t => .ok (t.points.map fun p => .text ⟨[p]⟩)
  | .object ms => .ok (ms.map fun m => .text m.1)
  | _ => .error .type

def keysIn : Json → Except Breakage (List Json)
  | .object ms =>
    match Json.Members.get? "keys" ms with
    | some v => listedKeys v
    | none =>
      if (Json.Members.get? "kty" ms).isSome || ms.isEmpty then .ok [.object ms]
      else .ok (ms.map (·.2))
  | .list items => .ok items
  | v => .ok [v]

def checkingKeys (depth : Nat) (secret : String) : Except Breakage (List Json) :=
  match Json.read depth .written secret with
  | .ok v => keysIn v
  | .error _ => .ok [.text secret]

end Accounts.Token
