import Mathlib.Logic.Function.Basic
import SkyWalking.Lib.Run

/-!
# Temporary PEM files

`utils/tls.py` writes certificates and keys to files, as `requests` and `ssl` take paths. A process
keeps the paths in a list and in two caches; after `os.fork()` the child starts with empty ones.
-/

namespace SkyWalking

namespace Tls

/-- The exceptions that `utils/tls.py` tells apart. -/
inductive Exn where
  | osError
  | valueError
  | runtimeError
  | other
  deriving DecidableEq, Repr

abbrev Try (α : Type) := Except Exn α

abbrev Bytes := List UInt8

/-- A file, and the process that has created it in `_pem_bytes_to_temp_file`, if one has. -/
structure File where
  owner : Option Nat
  content : Bytes
  deriving DecidableEq, Repr

/-- The globals of the module. -/
structure Globals where
  mtlsTempFiles : List String
  mtlsFileCacheKey : Option (Bytes × Bytes)
  mtlsFileCache : Option (String × String)
  caFileCacheKey : Option Bytes
  caFileCache : Option String
  atexitRegistered : Bool
  deriving DecidableEq, Repr

def Globals.init : Globals :=
  { mtlsTempFiles := []
    mtlsFileCacheKey := none
    mtlsFileCache := none
    caFileCacheKey := none
    caFileCache := none
    atexitRegistered := false }

def Globals.clear (g : Globals) : Globals :=
  { g with
    mtlsTempFiles := []
    mtlsFileCacheKey := none
    mtlsFileCache := none
    caFileCacheKey := none
    caFileCache := none }

/-- `_after_fork_in_child`: the lists are new ones, and no file is touched. -/
def Globals.afterForkInChild (g : Globals) : Globals := g.clear

/-- What a process sees: the disk, which it shares with the others, and its globals. -/
structure View where
  pid : Nat
  disk : String → Option File
  globals : Globals

/-- What `_pem_bytes_to_temp_file` meets: the name that `mkstemp` finds or what it raises, how much the
calls of `os.write` write as long as they succeed, and what the next one raises. -/
structure TempAnswer where
  mkstemp : Try String
  writes : List Nat
  failure : Exn
  deriving Repr

/-- The loop over `os.write`. `content` is what the file has so far. -/
def writeLoop (data : Bytes) (failure : Exn) : List Nat → Bytes → Nat → Try Bytes
  | [], content, offset => if offset < data.length then .error failure else .ok content
  | size :: writes, content, offset =>
      if offset < data.length then
        let written := min size (data.length - offset)
        if written ≤ 0 then .error .osError
        else
          writeLoop data failure writes (content ++ (data.drop offset).take written) (offset + written)
      else .ok content

namespace View

def write (path : String) (content : Bytes) (v : View) : View :=
  { v with disk := Function.update v.disk path (some ⟨some v.pid, content⟩) }

def unlink (path : String) (v : View) : View :=
  { v with disk := Function.update v.disk path none }

def exists? (path : String) (v : View) : Bool := (v.disk path).isSome

/-- `tempfile.mkstemp`, which takes a name that is not in use. -/
def mkstemp (suffix : String) (name : Try String) (v : View) : Try String × View :=
  match name with
  | .error exn => (.error exn, v)
  | .ok name =>
      if v.exists? (name ++ suffix) then (.error .osError, v)
      else (.ok (name ++ suffix), v.write (name ++ suffix) [])

def ensureAtexit (v : View) : View :=
  { v with globals := { v.globals with atexitRegistered := true } }

/-- `_mtls_temp_files.append(path)`. -/
def append (path : String) (v : View) : View :=
  { v with globals := { v.globals with mtlsTempFiles := v.globals.mtlsTempFiles ++ [path] } }

def pemBytesToTempFile (data : Bytes) (suffix : String) (answer : TempAnswer) (v : View) :
    Try String × View :=
  match v.ensureAtexit.mkstemp suffix answer.mkstemp with
  | (.error exn, v) => (.error exn, v)
  | (.ok path, v) =>
      match writeLoop data answer.failure answer.writes [] 0 with
      | .error exn => (.error exn, v.unlink path)
      | .ok content => (.ok path, (v.write path content).append path)

/-- `_mtls_temp_files.remove(path)`. -/
def remove (path : String) (v : View) : View :=
  { v with globals := { v.globals with mtlsTempFiles := v.globals.mtlsTempFiles.erase path } }

def discardMtlsTempPath (path : Option String) (v : View) : View :=
  match path with
  | none => v
  | some path => (v.unlink path).remove path

def setMtlsCache (key : Bytes × Bytes) (paths : String × String) (v : View) : View :=
  { v with
    globals := { v.globals with
      mtlsFileCacheKey := some key
      mtlsFileCache := some paths } }

/-- The paths that are cached for this material. -/
def mtlsCached (certificateChain privateKey : Bytes) (v : View) : Option (String × String) :=
  if v.globals.mtlsFileCacheKey = some (certificateChain, privateKey) then v.globals.mtlsFileCache
  else none

def mtlsCertKeyFiles (certificateChain privateKey : Bytes) (certAnswer keyAnswer : TempAnswer)
    (v : View) : Try (Option (String × String)) × View :=
  match v.mtlsCached certificateChain privateKey with
  | some paths => (.ok (some paths), v)
  | none =>
      match v.pemBytesToTempFile certificateChain ".crt" certAnswer with
      | (.error .osError, v) => (.ok none, v.discardMtlsTempPath none)
      | (.error exn, v) => (.error exn, v)
      | (.ok certPath, v) =>
          match v.pemBytesToTempFile privateKey ".pem" keyAnswer with
          | (.error .osError, v) => (.ok none, v.discardMtlsTempPath (some certPath))
          | (.error exn, v) => (.error exn, v)
          | (.ok keyPath, v) =>
              (.ok (some (certPath, keyPath)),
                v.setMtlsCache (certificateChain, privateKey) (certPath, keyPath))

def setCaCache (key : Bytes) (path : String) (v : View) : View :=
  { v with
    globals := { v.globals with
      caFileCacheKey := some key
      caFileCache := some path } }

/-- The path that is cached for these bytes, if it still exists. -/
def caCached (rootCertificates : Bytes) (v : View) : Option String :=
  if v.globals.caFileCacheKey = some rootCertificates then v.globals.caFileCache.filter v.exists?
  else none

def caVerifyTempFile (rootCertificates : Bytes) (answer : TempAnswer) (v : View) :
    Try String × View :=
  match v.caCached rootCertificates with
  | some path => (.ok path, v)
  | none =>
      match v.pemBytesToTempFile rootCertificates ".crt" answer with
      | (.error exn, v) => (.error exn, v)
      | (.ok path, v) => (.ok path, v.setCaCache rootCertificates path)

/-- `_cleanup_mtls_temp_files`. -/
def cleanup (v : View) : View :=
  let v := v.globals.mtlsTempFiles.foldl (fun v path => v.unlink path) v
  { v with globals := v.globals.clear }

end View

structure World where
  disk : String → Option File
  processes : Nat → Option Globals

/-- One process; the files that are there are none of its own. -/
def World.init (pid : Nat) (files : String → Option Bytes) : World :=
  { disk := fun path => (files path).map (File.mk none)
    processes := Function.update (fun _ => none) pid (some .init) }

inductive Op where
  | caVerifyTempFile (pid : Nat) (rootCertificates : Bytes) (answer : TempAnswer)
  | mtlsCertKeyFiles (pid : Nat) (certificateChain privateKey : Bytes)
      (certAnswer keyAnswer : TempAnswer)
  | cleanup (pid : Nat)
  | fork (parent child : Nat)
  deriving Repr

namespace World

def view (w : World) (pid : Nat) : Option View :=
  (w.processes pid).map fun globals => ⟨pid, w.disk, globals⟩

def put (w : World) (v : View) : World :=
  { disk := v.disk
    processes := Function.update w.processes v.pid (some v.globals) }

/-- `os.fork()`, with the hook in the child. Process ids are not used twice. -/
def fork (parent child : Nat) (w : World) : Option World :=
  match w.processes parent, w.processes child with
  | some globals, none =>
      some { w with
        processes := Function.update w.processes child (some globals.afterForkInChild) }
  | _, _ => none

def step (w : World) : Op → Option World
  | .caVerifyTempFile pid rootCertificates answer =>
      (w.view pid).map fun v => w.put (v.caVerifyTempFile rootCertificates answer).2
  | .mtlsCertKeyFiles pid certificateChain privateKey certAnswer keyAnswer =>
      (w.view pid).map fun v =>
        w.put (v.mtlsCertKeyFiles certificateChain privateKey certAnswer keyAnswer).2
  | .cleanup pid => (w.view pid).map fun v => w.put v.cleanup
  | .fork parent child => w.fork parent child

end World

def Step (w : World) (op : Op) (w' : World) : Prop := w.step op = some w'

/-- The paths are those of the files that the process has created, once each, and a cached path has the
content that it is cached for. -/
structure View.Consistent (v : View) : Prop where
  nodup : v.globals.mtlsTempFiles.Nodup
  tracked : ∀ path, path ∈ v.globals.mtlsTempFiles ↔ ∃ content, v.disk path = some ⟨some v.pid, content⟩
  ca : ∀ path, v.globals.caFileCache = some path → ∃ key, v.globals.caFileCacheKey = some key ∧
    v.disk path = some ⟨some v.pid, key⟩
  mtls : ∀ certPath keyPath, v.globals.mtlsFileCache = some (certPath, keyPath) →
    ∃ certificateChain privateKey,
      v.globals.mtlsFileCacheKey = some (certificateChain, privateKey) ∧
      v.disk certPath = some ⟨some v.pid, certificateChain⟩ ∧
      v.disk keyPath = some ⟨some v.pid, privateKey⟩

/-- The files and the caches are as they were. -/
structure View.Untouched (v v' : View) : Prop where
  disk : v'.disk = v.disk
  mtlsTempFiles : v'.globals.mtlsTempFiles = v.globals.mtlsTempFiles
  mtlsFileCacheKey : v'.globals.mtlsFileCacheKey = v.globals.mtlsFileCacheKey
  mtlsFileCache : v'.globals.mtlsFileCache = v.globals.mtlsFileCache
  caFileCacheKey : v'.globals.caFileCacheKey = v.globals.caFileCacheKey
  caFileCache : v'.globals.caFileCache = v.globals.caFileCache

/-- `mkstemp` and `os.write` raise `OSError`, if anything. -/
structure TempAnswer.Documented (answer : TempAnswer) : Prop where
  mkstemp : ∀ exn, answer.mkstemp = .error exn → exn = .osError
  failure : answer.failure = .osError

/-- An operation that fails leaves everything as it was, and that of one process does not touch the
files of another one. -/
structure World.Bookkept (w : World) : Prop where
  consistent : ∀ pid v, w.view pid = some v → v.Consistent
  ca_failed : ∀ pid v rootCertificates answer exn, w.view pid = some v →
    (v.caVerifyTempFile rootCertificates answer).1 = .error exn →
    v.Untouched (v.caVerifyTempFile rootCertificates answer).2
  mtls_failed : ∀ pid v certificateChain privateKey certAnswer keyAnswer, w.view pid = some v →
    certAnswer.Documented → keyAnswer.Documented →
    (∀ paths, (v.mtlsCertKeyFiles certificateChain privateKey certAnswer keyAnswer).1 ≠
      .ok (some paths)) →
    v.Untouched (v.mtlsCertKeyFiles certificateChain privateKey certAnswer keyAnswer).2
  own_files : ∀ pid w' path file, Step w (.cleanup pid) w' → w.disk path = some file →
    file.owner ≠ some pid → w'.disk path = some file

end Tls

end SkyWalking
