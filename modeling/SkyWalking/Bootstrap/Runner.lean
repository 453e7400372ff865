import Mathlib.Logic.Function.Basic
import SkyWalking.Lib.Text

/-!
# The command runner

`execute` of `bootstrap/cli/utility/runner.py` prepares the environment of the command that replaces the
process. Log messages are left out.
-/

namespace SkyWalking

namespace Runner

/-- `os.environ`. -/
abbrev Environ := String → Option String

inductive Failure where
  | runnerFailure
  /-- `IndexError`, for a command without words. -/
  | indexError
  deriving DecidableEq, Repr

/-- What `execute` reads of the interpreter and of the installed package. -/
structure Installation where
  pathsep : Char
  loaderPath : String
  hookPath : String
  /-- `os.path.realpath(os.path.normpath(sys.prefix))`. -/
  pythonPrefix : String
  pythonVersion : String
  debug : Bool
  deriving DecidableEq, Repr

/-- The first variable that is not in use. -/
def pickEnvVar (environ : Environ) : Option String :=
  ["UWSGI_SHARED_PYTHON_IMPORT", "UWSGI_SHARED_IMPORT", "UWSGI_SHARED_PYIMPORT",
    "UWSGI_SHARED_PY_IMPORT"].find? fun envVar => (environ envVar).isNone

def preforkHandler (command : List String) (environ : Environ) : Environ × Except Failure Unit :=
  let environ := Function.update environ "prefork" (some "")
  match command with
  | [] => (environ, .error .indexError)
  | program :: arguments =>
      if program = "gunicorn" then (Function.update environ "prefork" (some "gunicorn"), .ok ())
      else if program = "uwsgi" then
        let environ :=
          if "--master" ∈ arguments then environ
          else Function.update environ "UWSGI_MASTER" (some "true")
        let environ :=
          if "--enable-threads" ∈ arguments then environ
          else Function.update environ "UWSGI_ENABLE_THREADS" (some "true")
        let environ := Function.update environ "prefork" (some "uwsgi")
        match pickEnvVar environ with
        | none => (environ, .error .runnerFailure)
        | some envVar => (Function.update environ envVar (some "uwsgi_hook"), .ok ())
      else (environ, .ok ())

/-- The path that is exported, for the one that was set before. -/
def newPath (installation : Installation) (pythonPath : Option String) : String :=
  let sep := installation.pathsep
  let path := pythonPath.getD ""
  let newPath :=
    if path ≠ "" then
      let partitioned := Text.split sep path
      if installation.loaderPath ∉ partitioned then
        Text.join sep [installation.loaderPath, installation.hookPath, path]
      else ""
    else ""
  if newPath ≠ "" then newPath else Text.join sep [installation.loaderPath, installation.hookPath]

/-- The variables of the new process. -/
def withAgent (installation : Installation) (environ : Environ) : Environ :=
  let environ := Function.update environ "PYTHONPATH"
    (some (newPath installation (environ "PYTHONPATH")))
  let environ := Function.update environ "SW_PYTHON_PREFIX" (some installation.pythonPrefix)
  let environ := Function.update environ "SW_PYTHON_VERSION" (some installation.pythonVersion)
  Function.update environ "SW_AGENT_SW_PYTHON_CLI_DEBUG_ENABLED"
    (some (if installation.debug then "True" else "False"))

/-- `execute`, up to the moment at which the command replaces the process. `found` tells whether
`os.execvp` succeeds. -/
def execute (installation : Installation) (command : List String) (experimentalCheckPrefork found : Bool)
    (environ : Environ) : Environ × Except Failure Unit :=
  let (environ, prepared) :=
    if experimentalCheckPrefork then preforkHandler command environ else (environ, .ok ())
  match prepared with
  | .error failure => (environ, .error failure)
  | .ok () =>
      let environ := withAgent installation environ
      if command.isEmpty then (environ, .error .indexError)
      else if found then (environ, .ok ())
      else (environ, .error .runnerFailure)

/-- The entries of a path; one that is unset or empty has none. -/
def entries (installation : Installation) (pythonPath : Option String) : List String :=
  match pythonPath with
  | none => []
  | some path => if path = "" then [] else Text.split installation.pathsep path

/-- What the path `after` owes to the path `before`. -/
structure Preserves (installation : Installation) (before after : Option String) : Prop where
  kept : (entries installation before).Sublist (entries installation after)
  loaded : installation.loaderPath ∈ entries installation after
  first : installation.loaderPath ∉ entries installation before →
    (entries installation after).head? = some installation.loaderPath

/-- The pre-fork handler does not give up, if it is asked. -/
def Prepared (command : List String) (experimentalCheckPrefork : Bool) (environ : Environ) : Prop :=
  experimentalCheckPrefork = true → (preforkHandler command environ).2 = .ok ()

/-- The path is unset or empty, or has nothing but the loader directory and, behind it, the hook
directory. The directories must be such that they can be entries. -/
def Own (installation : Installation) (pythonPath : Option String) : Prop :=
  installation.pathsep ∉ installation.loaderPath.toList ∧
    (entries installation pythonPath = [] ∨
      installation.loaderPath ∈ entries installation pythonPath ∧
        (entries installation pythonPath).Sublist
          (installation.loaderPath :: Text.split installation.pathsep installation.hookPath))

end Runner

end SkyWalking
