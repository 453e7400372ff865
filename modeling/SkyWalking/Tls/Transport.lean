import SkyWalking.Tls.Material

/-!
# The transports of the reporters

`grpc_ssl_credentials`, `collector_http_scheme`, `requests_tls_settings`, `configure_requests_session` and
`ssl_context_for_collector` of `utils/tls.py`.
-/

namespace SkyWalking

namespace Tls

/-- `grpc.ChannelCredentials`, by what they were made of. -/
structure Credentials where
  rootCertificates : Option Bytes
  privateKey : Option Bytes
  certificateChain : Option Bytes
  deriving DecidableEq, Repr

/-- What the three calls of `grpc.ssl_channel_credentials` come to: with the whole material, with the
roots only, and without arguments. -/
structure GrpcAnswers where
  material : MaterialAnswers
  whole : Try Unit
  oneWay : Try Unit
  system : Try Unit
  deriving Repr

def sslChannelCredentials (outcome : Try Unit) (credentials : Credentials) : Try Credentials :=
  outcome.map fun _ => credentials

/-- An `except Exception` clause. -/
def Exn.isException (_ : Exn) : Bool := true

/-- The credentials for the material. -/
def credentialsFor (config : Config) (material : Material) (answers : GrpcAnswers) :
    Try (Option Credentials) :=
  tryExcept
    ((sslChannelCredentials answers.whole
      ⟨material.rootCertificates, material.privateKey, material.certificateChain⟩).map some)
    Exn.isException fun _ =>
      if material.privateKey.isSome ∨ material.certificateChain.isSome then
        tryExcept
          ((sslChannelCredentials answers.oneWay ⟨material.rootCertificates, none, none⟩).map some)
          Exn.isException fun _ => .ok none
      else if config.agentForceTls then
        tryExcept ((sslChannelCredentials answers.system ⟨none, none, none⟩).map some)
          Exn.isException fun _ => .ok none
      else .ok none

def grpcSslCredentials (pem : Pem) (config : Config) (answers : GrpcAnswers) :
    Try (Option Credentials) :=
  match tlsPemMaterial pem config answers.material with
  | .error exn => .error exn
  | .ok none => .ok none
  | .ok (some material) => credentialsFor config material answers

def collectorHttpScheme (pem : Pem) (config : Config) (source : MaterialSource) : String :=
  match source.get pem config with
  | .ok material => if material.isSome then "https://" else "http://"
  | .error _ => if config.agentForceTls then "https://" else "http://"

/-- What `_configured_ca_path_for_verify` meets: the lookup, and `expanduser` and `absolute`. -/
structure ConfiguredPathAnswers where
  lookup : Try (Option String)
  absolute : Try String
  deriving Repr

def configuredCaPathForVerify (config : Config) (answers : ConfiguredPathAnswers) :
    Try (Option String) := do
  if (configuredPath config.agentSslTrustedCaPath).isEmpty then .ok none
  else
    match ← sslFilePath config.agentSslTrustedCaPath answers.lookup with
    | none => .ok none
    | some _ => tryExcept (answers.absolute.map some) Exn.isPathError fun _ => .ok none

/-- The values of `session.verify`. -/
inductive Verify where
  | enabled
  | disabled
  | caFile (path : String)
  deriving DecidableEq, Repr

structure RequestsAnswers where
  caTemp : TempAnswer
  caPath : ConfiguredPathAnswers
  certTemp : TempAnswer
  keyTemp : TempAnswer
  deriving Repr

/-- `verify` for the root certificates. -/
def requestsVerify (config : Config) (rootCertificates : Option Bytes) (answers : RequestsAnswers)
    (v : View) : Try Verify × View :=
  match rootCertificates with
  | none => (.ok .enabled, v)
  | some roots =>
      match v.caVerifyTempFile roots answers.caTemp with
      | (.ok path, v) => (.ok (.caFile path), v)
      | (.error .osError, v) =>
          match configuredCaPathForVerify config answers.caPath with
          | .ok (some path) => (.ok (.caFile path), v)
          | .ok none => (.ok .enabled, v)
          | .error exn => (.error exn, v)
      | (.error exn, v) => (.error exn, v)

/-- `(verify, cert)` for the material. -/
def settingsFor (config : Config) (material : Material) (answers : RequestsAnswers) (v : View) :
    Try (Verify × Option (String × String)) × View :=
  match requestsVerify config material.rootCertificates answers v with
  | (.error exn, v) => (.error exn, v)
  | (.ok verify, v) =>
      match material.privateKey, material.certificateChain with
      | some privateKey, some certificateChain =>
          match v.mtlsCertKeyFiles certificateChain privateKey answers.certTemp answers.keyTemp with
          | (.error exn, v) => (.error exn, v)
          | (.ok pair, v) => (.ok (verify, pair), v)
      | _, _ => (.ok (verify, none), v)

def requestsTlsSettings (pem : Pem) (config : Config) (source : MaterialSource)
    (answers : RequestsAnswers) (v : View) : Try (Verify × Option (String × String)) × View :=
  match source.get pem config with
  | .error exn => (.error exn, v)
  | .ok none => (.ok (.enabled, none), v)
  | .ok (some material) => settingsFor config material answers v

/-- The two attributes of a `requests.Session` that are about TLS. -/
structure Session where
  verify : Verify
  cert : Option (String × String)
  deriving DecidableEq, Repr

/-- What the `except` clause of `configure_requests_session` meets. -/
structure SessionAnswers where
  settings : RequestsAnswers
  lookup : Try (Option String)
  caPath : ConfiguredPathAnswers
  deriving Repr

/-- `config.agent_force_tls or ssl_file_path(config.agent_ssl_trusted_ca_path)`. -/
def wantsTls (config : Config) (lookup : Try (Option String)) : Try Bool :=
  if config.agentForceTls then .ok true
  else (sslFilePath config.agentSslTrustedCaPath lookup).map Option.isSome

/-- The `except` clause. It may raise itself, and leaves the session as it is then. -/
def fallBackSession (config : Config) (answers : SessionAnswers) (session : Session) :
    Try Session := do
  let wanted ← wantsTls config answers.lookup
  if wanted then
    let caVerify ← configuredCaPathForVerify config answers.caPath
    pure
      { verify := (caVerify.map Verify.caFile).getD .enabled
        cert := none }
  else pure session

def Session.set (session : Session) (settings : Verify × Option (String × String)) : Session :=
  { verify := settings.1
    cert := settings.2.or session.cert }

/-- `configure_requests_session`: the session afterwards, and whether it has raised. -/
def configureRequestsSession (pem : Pem) (config : Config) (source : MaterialSource)
    (answers : SessionAnswers) (session : Session) (v : View) : Session × Try Unit × View :=
  match requestsTlsSettings pem config source answers.settings v with
  | (.ok settings, v) => (session.set settings, .ok (), v)
  | (.error _, v) =>
      match fallBackSession config answers session with
      | .ok session => (session, .ok (), v)
      | .error exn => (session, .error exn, v)

/-- What an `ssl.SSLContext` trusts. -/
inductive Anchors where
  | system
  | cadata (rootCertificates : Bytes)
  | cafile (path : String)
  deriving DecidableEq, Repr

structure SslContext where
  anchors : Anchors
  identity : Option (String × String)
  deriving DecidableEq, Repr

/-- What `ssl_context_for_collector` meets: `ssl.create_default_context` with `cadata`, with the snapshot,
with the configured path and without arguments, `load_cert_chain`, and the files. -/
structure ContextAnswers where
  cadata : Try Unit
  snapshot : TempAnswer
  snapshotContext : Try Unit
  caPath : ConfiguredPathAnswers
  pathContext : Try Unit
  system : Try Unit
  certTemp : TempAnswer
  keyTemp : TempAnswer
  loadCertChain : Try Unit
  deriving Repr

def createDefaultContext (outcome : Try Unit) (anchors : Anchors) : Try SslContext :=
  outcome.map fun _ => ⟨anchors, none⟩

/-- `b'BEGIN TRUSTED CERTIFICATE' in root_certificates`. -/
def caPemHasTrustedCertificate (rootCertificates : Bytes) : Bool :=
  rootCertificates.tails.any
    ("BEGIN TRUSTED CERTIFICATE".toList.map fun c => UInt8.ofNat c.toNat).isPrefixOf

/-- `ssl.create_default_context(cadata=root_certificates.decode('ascii'))`. -/
def cadataOutcome (rootCertificates : Bytes) (answers : ContextAnswers) : Try Unit :=
  if rootCertificates.all (· < 128) then answers.cadata else .error .valueError

/-- The `except` clause of `_load_ca_via_cafile`: a context, or the exception that is reported. -/
def loadCaViaPath (config : Config) (answers : ContextAnswers) (tempExc : Exn) :
    Try (Except Exn SslContext) := do
  match ← configuredCaPathForVerify config answers.caPath with
  | none => pure (.error tempExc)
  | some path =>
      tryExcept ((createDefaultContext answers.pathContext (.cafile path)).map .ok) Exn.isOsError
        fun pathExc => pure (.error pathExc)

def loadCaViaCafile (config : Config) (rootCertificates : Bytes) (answers : ContextAnswers) (v : View) :
    Try (Except Exn SslContext) × View :=
  match v.caVerifyTempFile rootCertificates answers.snapshot with
  | (.ok path, v) =>
      (tryExcept ((createDefaultContext answers.snapshotContext (.cafile path)).map .ok) Exn.isOsError
        (loadCaViaPath config answers), v)
  | (.error exn, v) =>
      (tryExcept (.error exn) Exn.isOsError (loadCaViaPath config answers), v)

/-- The custom CA of a context, or the exception that is reported. -/
def loadCa (config : Config) (rootCertificates : Bytes) (answers : ContextAnswers) (v : View) :
    Try (Except Exn SslContext) × View :=
  if caPemHasTrustedCertificate rootCertificates then
    loadCaViaCafile config rootCertificates answers v
  else
    match createDefaultContext (cadataOutcome rootCertificates answers) (.cadata rootCertificates) with
    | .ok ctx => (.ok (.ok ctx), v)
    | .error exn =>
        if exn.isFileError then loadCaViaCafile config rootCertificates answers v
        else (.error exn, v)

/-- The process trust store, or plaintext if it cannot be loaded. -/
def systemTrustContext (answers : ContextAnswers) : Try (Option SslContext) :=
  tryExcept ((createDefaultContext answers.system .system).map some) Exn.isOsError fun _ => .ok none

def loadIdentity (certificateChain privateKey : Bytes) (answers : ContextAnswers) (ctx : SslContext)
    (v : View) : Try (Option SslContext) × View :=
  match v.mtlsCertKeyFiles certificateChain privateKey answers.certTemp answers.keyTemp with
  | (.error exn, v) => (.error exn, v)
  | (.ok none, v) => (.ok (some ctx), v)
  | (.ok (some pair), v) =>
      (tryExcept (answers.loadCertChain.map fun _ => some { ctx with identity := some pair })
        Exn.isOsError fun _ => .ok (some ctx), v)

/-- The end of `ssl_context_for_collector`, where a client identity is loaded if there is one. -/
def attachIdentity (material : Material) (answers : ContextAnswers) (ctx : SslContext) (v : View) :
    Try (Option SslContext) × View :=
  match material.privateKey, material.certificateChain with
  | some privateKey, some certificateChain => loadIdentity certificateChain privateKey answers ctx v
  | _, _ => (.ok (some ctx), v)

/-- The context for the material. -/
def contextFor (config : Config) (material : Material) (answers : ContextAnswers) (v : View) :
    Try (Option SslContext) × View :=
  match material.rootCertificates with
  | none =>
      match systemTrustContext answers with
      | .ok (some ctx) => attachIdentity material answers ctx v
      | result => (result, v)
  | some roots =>
      match loadCa config roots answers v with
      | (.error exn, v) => (.error exn, v)
      | (.ok (.error _), v) =>
          -- The client identity is dropped together with the custom CA.
          (if config.agentForceTls then systemTrustContext answers else .ok none, v)
      | (.ok (.ok ctx), v) => attachIdentity material answers ctx v

def sslContextForCollector (pem : Pem) (config : Config) (source : MaterialSource)
    (answers : ContextAnswers) (v : View) : Try (Option SslContext) × View :=
  match source.get pem config with
  | .error exn => (.error exn, v)
  | .ok none => (.ok none, v)
  | .ok (some material) => contextFor config material answers v

end Tls

end SkyWalking
