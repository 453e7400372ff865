import SkyWalking.Lib.Text
import SkyWalking.Tls.TempFiles

/-!
# The TLS material

`tls_pem_material` of `utils/tls.py`, and what it calls. What the file system and `ssl` come to is an
answer, one for each place where they are asked: the same file may be there at one time and not at the
next. Warnings are left out.
-/

namespace SkyWalking

namespace Tls

/-- A `try` statement with an `except` clause. -/
def tryExcept {α : Type} (body : Try α) (caught : Exn → Bool) (handler : Exn → Try α) : Try α :=
  match body with
  | .ok value => .ok value
  | .error exn => if caught exn then handler exn else .error exn

/-- A `try` statement with a `finally` clause, which replaces what the body has raised by what it raises
itself. -/
def tryFinally (body final : Try Unit) : Try Unit :=
  match final with
  | .ok () => body
  | .error exn => .error exn

namespace Exn

/-- `except OSError`. -/
def isOsError (exn : Exn) : Bool := exn = .osError

/-- `except (OSError, ValueError)`. -/
def isFileError (exn : Exn) : Bool := exn = .osError ∨ exn = .valueError

/-- `except (OSError, ValueError, RuntimeError)`. -/
def isPathError (exn : Exn) : Bool := exn ≠ .other

end Exn

/-- The options of TLS. -/
structure Config where
  agentForceTls : Bool
  agentSslTrustedCaPath : String
  agentSslCertChainPath : String
  agentSslKeyPath : String
  deriving DecidableEq, Repr

/-- The functions on the text of PEM files. -/
structure Pem where
  extractCaPemBlocks : Bytes → Try Bytes
  normalizePrivateKeyPem : Bytes → Try Bytes

def maxPemBytes : Nat := 256 * 1024

def configuredPath (value : String) : List Char := Text.strip value.toList

/-- `ssl_file_path`. The lookup is `expanduser`, `resolve` and `is_file`, which finds a regular file or
does not. -/
def sslFilePath (value : String) (lookup : Try (Option String)) : Try (Option String) :=
  if (configuredPath value).isEmpty then .ok none
  else tryExcept lookup Exn.isPathError fun _ => .ok none

def collectorUsesTls (config : Config) (lookup : Try (Option String)) : Try Bool :=
  (sslFilePath config.agentSslTrustedCaPath lookup).map fun path =>
    config.agentForceTls || path.isSome

/-- `os.path.getsize` and `read_bytes`. -/
structure FileAnswer where
  size : Try Nat
  data : Try Bytes
  deriving Repr

def readBytes (file : FileAnswer) : Try Bytes := do
  let size ← file.size
  if size > maxPemBytes then .error .valueError else file.data

/-- `_load_trusted_ca`. `parse` is what `ssl.create_default_context(cafile=...)` comes to. -/
def loadTrustedCa (pem : Pem) (file : FileAnswer) (parse : Try Unit) : Try Bytes := do
  let data ← readBytes file
  tryExcept parse Exn.isOsError fun _ => .error .valueError
  pem.extractCaPemBlocks data

/-- The two temporary files of `_validate_client_cert_key`, and the context that loads them. -/
structure ValidateAnswers where
  certTemp : Try Unit
  certWrite : Try Unit
  certClose : Try Unit
  keyTemp : Try Unit
  keyWrite : Try Unit
  keyClose : Try Unit
  context : Try Unit
  loadCertChain : Try Unit
  certUnlink : Try Unit
  keyUnlink : Try Unit
  deriving Repr

/-- The `finally` clause, for the files that have been created. -/
def unlinkTemp (unlinks : List (Try Unit)) : Try Unit :=
  unlinks.forM fun unlink => tryExcept unlink Exn.isOsError fun _ => .ok ()

def validateClientCertKey (answers : ValidateAnswers) : Try Unit := do
  answers.certTemp
  let keyTemp : Try Unit := do
    tryFinally answers.certWrite answers.certClose
    answers.keyTemp
  let load : Try Unit := do
    tryFinally answers.keyWrite answers.keyClose
    answers.context
    answers.loadCertChain
  match keyTemp with
  | .error exn => tryFinally (.error exn) (unlinkTemp [answers.certUnlink])
  | .ok () => tryFinally load (unlinkTemp [answers.certUnlink, answers.keyUnlink])

structure IdentityAnswers where
  certPath : Try (Option String)
  keyPath : Try (Option String)
  cert : FileAnswer
  key : FileAnswer
  validate : ValidateAnswers
  deriving Repr

/-- The body of the `try` statement of `_mtls_material`. -/
def readIdentity (pem : Pem) (answers : IdentityAnswers) : Try (Bytes × Bytes) := do
  let certPem ← readBytes answers.cert
  let keyPem ← (readBytes answers.key).bind pem.normalizePrivateKeyPem
  validateClientCertKey answers.validate
  pure (certPem, keyPem)

/-- `_mtls_material`: the certificate chain and the private key. -/
def mtlsMaterial (pem : Pem) (config : Config) (caUsable : Bool) (answers : IdentityAnswers) :
    Try (Option (Bytes × Bytes)) :=
  let certCfg := configuredPath config.agentSslCertChainPath
  let keyCfg := configuredPath config.agentSslKeyPath
  if ¬ caUsable then .ok none
  else if certCfg.isEmpty ≠ keyCfg.isEmpty then .ok none
  else if certCfg.isEmpty ∨ keyCfg.isEmpty then .ok none
  else do
    let certPath ← sslFilePath config.agentSslCertChainPath answers.certPath
    let keyPath ← sslFilePath config.agentSslKeyPath answers.keyPath
    if certPath.isNone ∨ keyPath.isNone then .ok none
    else tryExcept ((readIdentity pem answers).map some) Exn.isFileError fun _ => .ok none

/-- What `tls_pem_material` meets: two lookups of the CA path, the CA file, and the identity. -/
structure MaterialAnswers where
  firstLookup : Try (Option String)
  secondLookup : Try (Option String)
  ca : FileAnswer
  caParse : Try Unit
  identity : IdentityAnswers
  deriving Repr

structure Material where
  rootCertificates : Option Bytes
  privateKey : Option Bytes
  certificateChain : Option Bytes
  deriving DecidableEq, Repr

def Material.of (rootCertificates : Option Bytes) (identity : Option (Bytes × Bytes)) : Material :=
  { rootCertificates := rootCertificates
    privateKey := identity.map Prod.snd
    certificateChain := identity.map Prod.fst }

/-- The process trust store, and no client certificate. -/
def Material.systemTrust : Material := .of none none

/-- The `try` statement of `tls_pem_material`, which leaves the certificates out if they do not load. -/
def rootCertificates (pem : Pem) (caPath : Option String) (answers : MaterialAnswers) :
    Try (Option Bytes) :=
  match caPath with
  | none => .ok none
  | some _ =>
      tryExcept ((loadTrustedCa pem answers.ca answers.caParse).map some) Exn.isFileError
        fun _ => .ok none

/-- `tls_pem_material`; `none` means plaintext. -/
def tlsPemMaterial (pem : Pem) (config : Config) (answers : MaterialAnswers) :
    Try (Option Material) := do
  let _ ← collectorUsesTls config answers.firstLookup
  let caPath ← sslFilePath config.agentSslTrustedCaPath answers.secondLookup
  let roots ← rootCertificates pem caPath answers
  if ¬ config.agentForceTls ∧ roots.isNone then .ok none
  else
    let identity ← mtlsMaterial pem config roots.isSome answers.identity
    pure (some (.of roots identity))

def safeTlsPemMaterial (pem : Pem) (config : Config) (answers : MaterialAnswers) : Option Material :=
  match tlsPemMaterial pem config answers with
  | .ok material => material
  | .error _ => if config.agentForceTls then some .systemTrust else none

/-- The parameter `material`, which is `none` for `_MATERIAL_UNSET`, and what `tls_pem_material` meets if
it is called instead. -/
structure MaterialSource where
  argument : Option (Option Material)
  answers : MaterialAnswers
  deriving Repr

def MaterialSource.get (pem : Pem) (config : Config) (source : MaterialSource) :
    Try (Option Material) :=
  match source.argument with
  | none => tlsPemMaterial pem config source.answers
  | some material => .ok material

/-- The reporters load the material once, for all that they build, or leave it to the builder. -/
def MaterialSource.Shared (pem : Pem) (config : Config) (source : MaterialSource) : Prop :=
  source.argument = none ∨
    ∃ answers, source.argument = some (safeTlsPemMaterial pem config answers)

end Tls

end SkyWalking
