import SkyWalking.Lib.Armor
import SkyWalking.Lib.Base64
import SkyWalking.Lib.Bytes
import SkyWalking.Lib.Der
import SkyWalking.Tls.TempFiles

/-!
# Private keys in PKCS#8

A PKCS#1 key is wrapped into the PKCS#8 form by hand. What the wrapped file should be is read with the rules of PEM and
of BER.
-/

namespace SkyWalking

namespace Tls

def pkcs1Opening : List Char := "BEGIN RSA PRIVATE KEY".toList

def pkcs1Closing : List Char := "END RSA PRIVATE KEY".toList

def encryptedOpening : List Char := "BEGIN ENCRYPTED PRIVATE KEY".toList

def pkcs1PemHeader : List Char := Armor.delimiter pkcs1Opening

def pkcs1PemFooter : List Char := Armor.delimiter pkcs1Closing

def pkcs8PemHeader : List Char := Armor.delimiter "BEGIN PRIVATE KEY".toList

def pkcs8PemFooter : List Char := Armor.delimiter "END PRIVATE KEY".toList

def encryptedPemHeader : List Char := Armor.delimiter encryptedOpening

/-- Why `normalize_private_key_pem` raises `ValueError`. -/
inductive KeyError where
  | encrypted
  | missingDelimiters
  | notBase64
  | tooLarge
  deriving DecidableEq, Repr

/-- The text of the error. That of `notBase64` goes on with what the decoder says. -/
def KeyError.message : KeyError → String
  | encrypted => "Passphrase-encrypted private keys are not supported; " ++
      "use an unencrypted PEM (PKCS#8 or PKCS#1 RSA)"
  | missingDelimiters => "Invalid PKCS#1 private key PEM: missing BEGIN/END delimiters"
  | notBase64 => "Invalid PKCS#1 private key PEM: "
  | tooLarge => "PKCS#1 private key too large for PKCS#8 wrap"

/-- `'Proc-Type:' in text and 'ENCRYPTED' in text.upper()`. No character outside ASCII has an upper case that would
complete the word. -/
def isLegacyEncrypted (text : List Char) : Bool :=
  Text.isIn "Proc-Type:".toList text && Text.isIn "ENCRYPTED".toList (text.map Char.toUpper)

/-- `base64.b64decode(body, validate=False)`. -/
def b64decode (body : List Char) : Option Bytes :=
  if body.all fun c => c.toNat < 128 then (Base64.decode body).toOption else none

def pkcs8Header (pkcs1Length : Nat) : Bytes :=
  let totalLength := pkcs1Length + 22
  [0x30, 0x82, UInt8.ofNat (totalLength / 256), UInt8.ofNat totalLength,
    0x02, 0x01, 0x00,
    0x30, 0x0D, 0x06, 0x09, 0x2A, 0x86, 0x48, 0x86, 0xF7, 0x0D, 0x01, 0x01, 0x01, 0x05, 0x00,
    0x04, 0x82, UInt8.ofNat (pkcs1Length / 256), UInt8.ofNat pkcs1Length]

/-- `[encoded[i:i + 64] for i in range(0, len(encoded), 64)]`. -/
def pemLines (encoded : List Char) : List (List Char) :=
  (List.range ((encoded.length + 63) / 64)).map fun i => (encoded.drop (64 * i)).take 64

/-- The file around the lines. -/
def pkcs8Pem (lines : List (List Char)) : List Char :=
  pkcs8PemHeader ++ ('\n' :: (['\n'].intercalate lines ++ ('\n' :: (pkcs8PemFooter ++ ['\n']))))

def isLayout (c : Char) : Bool := c = '\r' || c = '\n' || c = ' '

def wrapPkcs1 (pkcs1 : Bytes) : Except KeyError Bytes :=
  if pkcs1.length + 22 > 0xFFFF ∨ pkcs1.length > 0xFFFF then .error .tooLarge
  else .ok (Bytes.encode (pkcs8Pem (pemLines (Base64.encode (pkcs8Header pkcs1.length ++ pkcs1)))))

def normalizePrivateKeyPem (keyPem : Bytes) : Except KeyError Bytes :=
  let text := Bytes.decode keyPem
  if Text.isIn encryptedPemHeader text ∨ isLegacyEncrypted text then .error .encrypted
  else match Text.find? pkcs1PemHeader text with
    | none => .ok keyPem
    | some start =>
        match Text.find? pkcs1PemFooter (text.drop start) with
        | none => .error .missingDelimiters
        | some found =>
            let body := ((text.drop start).take found).drop pkcs1PemHeader.length
            match b64decode (body.filter fun c => !isLayout c) with
            | none => .error .notBase64
            | some pkcs1 => wrapPkcs1 pkcs1

/-- A `PrivateKeyInfo` of version 0 with the rsaEncryption algorithm and this key. -/
structure IsPrivateKeyInfo (shortest : Bool) (der key : Bytes) : Prop where
  read : ∃ info algorithm oid,
    Der.Reads shortest der [⟨0x30, info⟩] ∧
    Der.Reads shortest info [⟨0x02, [0]⟩, ⟨0x30, algorithm⟩, ⟨0x04, key⟩] ∧
    Der.Reads shortest algorithm [⟨0x06, oid⟩, ⟨0x05, []⟩] ∧
    Der.objectIdentifier oid = [1, 2, 840, 113549, 1, 1, 1]

/-- The lengths of the sequence and of the key are written in two octets each, after an octet that says so. -/
structure HasTwoOctetLengths (der key : Bytes) : Prop where
  read : ∃ info front, der = 0x30 :: 0x82 :: (Der.twoOctets info.length ++ info) ∧
    info = front ++ (0x04 :: 0x82 :: (Der.twoOctets key.length ++ key))

/-- One `PRIVATE KEY` block with short lines that hold these octets. -/
def IsPrivateKeyPem (pem der : Bytes) : Prop :=
  ∃ lines, pem = Bytes.encode (pkcs8Pem lines) ∧
    (∀ line ∈ lines, line.length ≤ 64 ∧ ∀ c ∈ line, Base64.IsCode c) ∧
    Base64.decode (['\n'].intercalate lines) = .ok der

/-- Text around a key. -/
structure IsSurrounding (text : List Char) : Prop where
  no_delimiter : ¬ Armor.dashes <:+: text
  no_proc_type : ¬ "Proc-Type:".toList <:+: text

/-- A file with one PKCS#1 key. The body begins behind the dashes of the BEGIN line: with the end of that line it is
not the inside of a delimiter. -/
structure Pkcs1File (key : Bytes) where
  before : List Char
  body : List Char
  after : List Char
  before_ok : IsSurrounding before
  body_ok : (body.filter fun c => !isLayout c) = Base64.encode key
  line_ok : body ≠ pkcs1Closing ∧ body ≠ encryptedOpening
  after_ok : IsSurrounding after

def Pkcs1File.bytes {key : Bytes} (file : Pkcs1File key) : Bytes :=
  Bytes.encode (file.before ++ (pkcs1PemHeader ++ (file.body ++ (pkcs1PemFooter ++ file.after))))

end Tls

end SkyWalking
