import SkyWalking.Tls.Transport

/-!
# What the degrade rules promise

With `agent_force_tls`, no transport falls back to plaintext as long as the process trust store works. A
client identity goes together with the custom CA. Both can fail, and this module says when.
-/

namespace SkyWalking

namespace Tls

/-- One call of each of the functions that set up a transport. -/
structure Calls where
  grpc : GrpcAnswers
  scheme : MaterialSource
  settings : MaterialSource
  requests : RequestsAnswers
  session : MaterialSource
  fallback : SessionAnswers
  context : MaterialSource
  ssl : ContextAnswers

/-- The HTTP functions get the material from their callers, or load it. -/
structure Calls.Shared (pem : Pem) (config : Config) (calls : Calls) : Prop where
  scheme : calls.scheme.Shared pem config
  settings : calls.settings.Shared pem config
  session : calls.session.Shared pem config
  context : calls.context.Shared pem config

/-- Every transport is encrypted, and verifies the certificate of the collector. -/
structure NeverPlaintext (pem : Pem) (config : Config) (calls : Calls) (session : Session) (v : View) :
    Prop where
  credentials : ∃ credentials, grpcSslCredentials pem config calls.grpc = .ok (some credentials)
  scheme : collectorHttpScheme pem config calls.scheme = "https://"
  settings : ∀ settings, (requestsTlsSettings pem config calls.settings calls.requests v).1 =
    .ok settings → settings.1 ≠ .disabled
  session :
    (configureRequestsSession pem config calls.session calls.fallback session v).1.verify ≠ .disabled
  context : ∃ ctx, (sslContextForCollector pem config calls.context calls.ssl v).1 = .ok (some ctx)

def Succeeds {α : Type} (outcome : Try α) : Prop := ∃ value, outcome = .ok value

/-- The exception is one that the clause catches. -/
def Within {α : Type} (caught : Exn → Bool) (outcome : Try α) : Prop :=
  ∃ exn, outcome = .error exn ∧ caught exn = true

/-- The exception gets past the clause. -/
def Past {α : Type} (caught : Exn → Bool) (outcome : Try α) : Prop :=
  ∃ exn, outcome = .error exn ∧ caught exn = false

/-- The lookup of a path that is set finds a regular file. -/
def Finds (value : String) (lookup : Try (Option String)) : Prop :=
  configuredPath value ≠ [] ∧ ∃ path, lookup = .ok (some path)

/-- The lookup of a path that is set raises past `ssl_file_path`. -/
def LookupEscapes (value : String) (lookup : Try (Option String)) : Prop :=
  configuredPath value ≠ [] ∧ Past Exn.isPathError lookup

/-- Both files of the client identity are found. -/
def IdentityAnswers.Found (config : Config) (answers : IdentityAnswers) : Prop :=
  Finds config.agentSslCertChainPath answers.certPath ∧ Finds config.agentSslKeyPath answers.keyPath

def IdentityAnswers.Escapes (pem : Pem) (config : Config) (answers : IdentityAnswers) : Prop :=
  configuredPath config.agentSslCertChainPath ≠ [] ∧ configuredPath config.agentSslKeyPath ≠ [] ∧
    (LookupEscapes config.agentSslCertChainPath answers.certPath ∨
      LookupEscapes config.agentSslKeyPath answers.keyPath ∨
      answers.Found config ∧ Past Exn.isFileError (readIdentity pem answers))

/-- The configured CA loads. -/
def MaterialAnswers.CustomCa (pem : Pem) (config : Config) (answers : MaterialAnswers)
    (rootCertificates : Bytes) : Prop :=
  Finds config.agentSslTrustedCaPath answers.secondLookup ∧
    loadTrustedCa pem answers.ca answers.caParse = .ok rootCertificates

/-- The configured CA loads, and the client identity with it. -/
def MaterialAnswers.HasIdentity (pem : Pem) (config : Config) (answers : MaterialAnswers) : Prop :=
  (∃ rootCertificates, answers.CustomCa pem config rootCertificates) ∧
    answers.identity.Found config ∧ Succeeds (readIdentity pem answers.identity)

/-- A step of `tls_pem_material` raises what no clause there catches. -/
def MaterialAnswers.Escapes (pem : Pem) (config : Config) (answers : MaterialAnswers) : Prop :=
  LookupEscapes config.agentSslTrustedCaPath answers.firstLookup ∨
    LookupEscapes config.agentSslTrustedCaPath answers.secondLookup ∨
    Finds config.agentSslTrustedCaPath answers.secondLookup ∧
      Past Exn.isFileError (loadTrustedCa pem answers.ca answers.caParse) ∨
    (∃ rootCertificates, answers.CustomCa pem config rootCertificates) ∧
      answers.identity.Escapes pem config

/-- `_configured_ca_path_for_verify` gives a path. -/
def ConfiguredPathAnswers.Known (config : Config) (answers : ConfiguredPathAnswers) : Prop :=
  Finds config.agentSslTrustedCaPath answers.lookup ∧ Succeeds answers.absolute

def ConfiguredPathAnswers.Escapes (config : Config) (answers : ConfiguredPathAnswers) : Prop :=
  LookupEscapes config.agentSslTrustedCaPath answers.lookup ∨
    Finds config.agentSslTrustedCaPath answers.lookup ∧ Past Exn.isPathError answers.absolute

/-- Calls of `os.write` that take in this many bytes, before one of them takes in nothing. -/
def Covered (needed : Nat) (writes : List Nat) : Prop :=
  ∃ calls ≤ writes.length, (∀ size ∈ writes.take calls, 0 < size) ∧ needed ≤ (writes.take calls).sum

namespace TempAnswer

/-- The content gets into a file at the path, which is not in use. -/
def Writes (data : Bytes) (suffix : String) (used : String → Prop) (answer : TempAnswer)
    (path : String) : Prop :=
  ∃ name, answer.mkstemp = .ok name ∧ path = name ++ suffix ∧ ¬ used path ∧
    Covered data.length answer.writes

/-- There is no file, for this exception. -/
def Fails (data : Bytes) (suffix : String) (used : String → Prop) (answer : TempAnswer) (exn : Exn) :
    Prop :=
  answer.mkstemp = .error exn ∨ ∃ name, answer.mkstemp = .ok name ∧
    (used (name ++ suffix) ∧ exn = .osError ∨
      ¬ used (name ++ suffix) ∧ ¬ Covered data.length answer.writes ∧
        exn = if 0 ∈ answer.writes then .osError else answer.failure)

end TempAnswer

/-- The paths of the files that are there. -/
def View.Used (v : View) (path : String) : Prop := v.disk path ≠ none

/-- There are files for the client identity: they are cached, or both can be written. -/
def View.IdentityFiles (certificateChain privateKey : Bytes) (certAnswer keyAnswer : TempAnswer)
    (used : String → Prop) (v : View) : Prop :=
  v.mtlsCached certificateChain privateKey ≠ none ∨
    (∃ path, certAnswer.Writes certificateChain ".crt" used path) ∧
      ∃ path, keyAnswer.Writes privateKey ".pem" used path

/-- Writing them raises anything but `OSError`. -/
def View.IdentityFilesEscape (certificateChain privateKey : Bytes) (certAnswer keyAnswer : TempAnswer)
    (used : String → Prop) (v : View) : Prop :=
  v.mtlsCached certificateChain privateKey = none ∧ ∃ exn ≠ Exn.osError,
    (certAnswer.Fails certificateChain ".crt" used exn ∨
      (∃ path, certAnswer.Writes certificateChain ".crt" used path) ∧
        keyAnswer.Fails privateKey ".pem" used exn)

namespace ContextAnswers

/-- The snapshot of the CA is written, and loads. -/
def snapshotOutcome (rootCertificates : Bytes) (answers : ContextAnswers) (v : View) : Try Unit :=
  (v.caVerifyTempFile rootCertificates answers.snapshot).1.bind fun _ => answers.snapshotContext

def PathEscapes (config : Config) (answers : ContextAnswers) : Prop :=
  answers.caPath.Escapes config ∨
    answers.caPath.Known config ∧ Past Exn.isOsError answers.pathContext

def CafileEscapes (config : Config) (rootCertificates : Bytes) (answers : ContextAnswers) (v : View) :
    Prop :=
  Past Exn.isOsError (answers.snapshotOutcome rootCertificates v) ∨
    Within Exn.isOsError (answers.snapshotOutcome rootCertificates v) ∧ answers.PathEscapes config

def CafileLoads (config : Config) (rootCertificates : Bytes) (answers : ContextAnswers) (v : View) :
    Prop :=
  Succeeds (answers.snapshotOutcome rootCertificates v) ∨
    Within Exn.isOsError (answers.snapshotOutcome rootCertificates v) ∧ answers.caPath.Known config ∧
      Succeeds answers.pathContext

/-- The custom CA is loaded through a file. -/
def NeedsFile (rootCertificates : Bytes) (answers : ContextAnswers) : Prop :=
  caPemHasTrustedCertificate rootCertificates = true ∨
    Within Exn.isFileError (cadataOutcome rootCertificates answers)

def CaEscapes (config : Config) (rootCertificates : Bytes) (answers : ContextAnswers) (v : View) :
    Prop :=
  caPemHasTrustedCertificate rootCertificates = false ∧
      Past Exn.isFileError (cadataOutcome rootCertificates answers) ∨
    answers.NeedsFile rootCertificates ∧ answers.CafileEscapes config rootCertificates v

def CaLoads (config : Config) (rootCertificates : Bytes) (answers : ContextAnswers) (v : View) : Prop :=
  caPemHasTrustedCertificate rootCertificates = false ∧
      Succeeds (cadataOutcome rootCertificates answers) ∨
    answers.NeedsFile rootCertificates ∧ answers.CafileLoads config rootCertificates v

/-- Loading the client identity raises past the clauses there. -/
def IdentityEscapes (material : Material) (answers : ContextAnswers) (used : String → Prop)
    (v : View) : Prop :=
  ∃ certificateChain privateKey, material.certificateChain = some certificateChain ∧
    material.privateKey = some privateKey ∧
    (v.IdentityFilesEscape certificateChain privateKey answers.certTemp answers.keyTemp used ∨
      v.IdentityFiles certificateChain privateKey answers.certTemp answers.keyTemp used ∧
        Past Exn.isOsError answers.loadCertChain)

/-- The paths in use after the CA was loaded: those from before, and that of a snapshot written for it. -/
def UsedWithCa (rootCertificates : Bytes) (answers : ContextAnswers) (v : View) (path : String) : Prop :=
  v.Used path ∨ answers.NeedsFile rootCertificates ∧ v.caCached rootCertificates = none ∧
    answers.snapshot.Writes rootCertificates ".crt" v.Used path

/-- A step of `ssl_context_for_collector` raises what no clause there catches. -/
def Escapes (config : Config) (material : Material) (answers : ContextAnswers) (v : View) : Prop :=
  material.rootCertificates = none ∧ answers.IdentityEscapes material v.Used v ∨
    ∃ rootCertificates, material.rootCertificates = some rootCertificates ∧
      (answers.CaEscapes config rootCertificates v ∨
        answers.CaLoads config rootCertificates v ∧
          answers.IdentityEscapes material (answers.UsedWithCa rootCertificates v) v)

/-- A context is built: for the CA, or for the process trust store where that is wanted. -/
def Establishes (config : Config) (material : Material) (answers : ContextAnswers) (v : View) : Prop :=
  match material.rootCertificates with
  | none => Succeeds answers.system ∧ ¬ answers.IdentityEscapes material v.Used v
  | some rootCertificates =>
      ¬ answers.CaEscapes config rootCertificates v ∧
        (answers.CaLoads config rootCertificates v ∧
            ¬ answers.IdentityEscapes material (answers.UsedWithCa rootCertificates v) v ∨
          ¬ answers.CaLoads config rootCertificates v ∧ config.agentForceTls = true ∧
            Succeeds answers.system)

end ContextAnswers

/-- No exception gets past the clauses, and if the credentials with a client identity cannot be built,
those without it can. -/
structure Calls.Degrades (pem : Pem) (config : Config) (calls : Calls) (v : View) : Prop where
  grpc : ¬ calls.grpc.material.Escapes pem config
  retry : calls.grpc.material.HasIdentity pem config →
    Succeeds calls.grpc.whole ∨ Succeeds calls.grpc.oneWay
  material : calls.context.argument = none → ¬ calls.context.answers.Escapes pem config
  context : ∀ material, calls.context.get pem config = .ok (some material) →
    ¬ calls.ssl.Escapes config material v

/-- With the same material, the URLs say `https` exactly if there is a context, and building it does not
raise. -/
def SchemeAgrees (pem : Pem) (config : Config) (source : MaterialSource) (answers : ContextAnswers)
    (v : View) : Prop :=
  Succeeds (sslContextForCollector pem config source answers v).1 ∧
    (collectorHttpScheme pem config source = "https://" ↔
      ∃ ctx, (sslContextForCollector pem config source answers v).1 = .ok (some ctx))

/-- The root certificates are those of the configured CA, in the call itself or in the one that loaded
the material for it. -/
def MaterialSource.CustomCa (pem : Pem) (config : Config) (source : MaterialSource)
    (rootCertificates : Bytes) : Prop :=
  source.argument = none ∧ source.answers.CustomCa pem config rootCertificates ∨
    ∃ answers, source.argument = some (safeTlsPemMaterial pem config answers) ∧
      answers.CustomCa pem config rootCertificates

/-- The file has the root certificates, or its path is that of the configured CA. -/
def View.Anchored (rootCertificates : Bytes) (answers : ConfiguredPathAnswers) (path : String)
    (v : View) : Prop :=
  (∃ owner, v.disk path = some ⟨owner, rootCertificates⟩) ∨ answers.absolute = .ok path

/-- Whoever is shown the client identity is authenticated by the custom CA. -/
structure IdentityGuarded (pem : Pem) (config : Config) (calls : Calls) (v : View) : Prop where
  credentials : ∀ credentials, grpcSslCredentials pem config calls.grpc = .ok (some credentials) →
    credentials.privateKey ≠ none ∨ credentials.certificateChain ≠ none →
    ∃ roots, credentials.rootCertificates = some roots ∧
      calls.grpc.material.CustomCa pem config roots
  settings : ∀ verify pair v',
    requestsTlsSettings pem config calls.settings calls.requests v = (.ok (verify, some pair), v') →
    ∃ roots path, verify = .caFile path ∧ calls.settings.CustomCa pem config roots ∧
      v'.Anchored roots calls.requests.caPath path
  context : ∀ ctx pair v',
    sslContextForCollector pem config calls.context calls.ssl v = (.ok (some ctx), v') →
    ctx.identity = some pair → ∃ roots, calls.context.CustomCa pem config roots ∧
      (ctx.anchors = .cadata roots ∨
        ∃ path, ctx.anchors = .cafile path ∧ v'.Anchored roots calls.ssl.caPath path)

/-- The material is there, with the configured CA and a client identity: it is the argument of the call,
or all of it loads. -/
def MaterialSource.Identified (pem : Pem) (config : Config) (source : MaterialSource)
    (rootCertificates privateKey certificateChain : Bytes) : Prop :=
  source.argument = some (some ⟨some rootCertificates, some privateKey, some certificateChain⟩) ∨
    source.argument = none ∧ ¬ source.answers.Escapes pem config ∧
      source.answers.CustomCa pem config rootCertificates ∧ source.answers.identity.Found config ∧
      readIdentity pem source.answers.identity = .ok (certificateChain, privateKey)

/-- An `OSError` keeps the snapshot of the CA from being written and the configured path is not there, but
there are files for the client identity. -/
def Calls.Exposes (pem : Pem) (config : Config) (calls : Calls) (v : View) : Prop :=
  ∃ roots privateKey certificateChain,
    calls.settings.Identified pem config roots privateKey certificateChain ∧
    v.caCached roots = none ∧ calls.requests.caTemp.Fails roots ".crt" v.Used .osError ∧
    ¬ calls.requests.caPath.Known config ∧ ¬ calls.requests.caPath.Escapes config ∧
    v.IdentityFiles certificateChain privateKey calls.requests.certTemp calls.requests.keyTemp v.Used

end Tls

end SkyWalking
