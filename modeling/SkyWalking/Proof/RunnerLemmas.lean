import SkyWalking.Bootstrap.Runner

/-!
# The exported path

If the loader directory is an entry already, the path is replaced by the two directories of the agent.
-/

namespace SkyWalking

namespace Runner

variable (installation : Installation) {pythonPath : Option String}

/-- The pre-fork handler leaves the path alone. -/
theorem preforkHandler_pythonPath (command : List String) (environ : Environ) :
    (preforkHandler command environ).1 "PYTHONPATH" = environ "PYTHONPATH" := by
  have hpick : ∀ (environ : Environ) (envVar : String), pickEnvVar environ = some envVar →
      envVar ≠ "PYTHONPATH" := by
    rintro environ envVar h rfl
    have hmem := List.mem_of_find?_eq_some h
    revert hmem
    decide
  unfold preforkHandler
  cases command with
  | nil => simp
  | cons program arguments =>
      by_cases hgunicorn : program = "gunicorn"
      · simp [hgunicorn]
      by_cases huwsgi : program = "uwsgi"
      · simp only [if_neg hgunicorn, if_pos huwsgi]
        split
        · split <;> split <;> simp
        · next envVar henvVar =>
          refine (Function.update_of_ne (hpick _ _ henvVar).symm _ _).trans ?_
          split <;> split <;> simp
      · simp [hgunicorn, huwsgi]

/-- What `execute` exports. -/
theorem execute_pythonPath {command : List String} {check : Bool} {environ : Environ}
    (hprepared : Prepared command check environ) (found : Bool) :
    (execute installation command check found environ).1 "PYTHONPATH" =
      some (newPath installation (environ "PYTHONPATH")) := by
  have hexport : ∀ environ : Environ, withAgent installation environ "PYTHONPATH" =
      some (newPath installation (environ "PYTHONPATH")) := by
    intro environ
    simp [withAgent]
  unfold execute
  cases check with
  | false =>
      simp only [Bool.false_eq_true, if_false]
      split
      · exact hexport environ
      · split <;> exact hexport environ
  | true =>
      have hpath := hexport (preforkHandler command environ).1
      rw [preforkHandler_pythonPath] at hpath
      simp only [if_true, hprepared rfl]
      split
      · exact hpath
      · split <;> exact hpath

/-- The two directories of the agent, as a path. -/
def ownPath : String :=
  Text.join installation.pathsep [installation.loaderPath, installation.hookPath]

theorem entries_nil : entries installation pythonPath = [] ↔ pythonPath.getD "" = "" := by
  cases pythonPath with
  | none => simp [entries]
  | some path =>
      by_cases hpath : path = ""
      · simp [entries, hpath]
      · simp [entries, hpath, Text.split_ne_nil]

theorem entries_some {path : String} (hpath : path ≠ "") :
    entries installation (some path) = Text.split installation.pathsep path := if_neg hpath

theorem newPath_of_entries_nil (h : entries installation pythonPath = []) :
    newPath installation pythonPath = ownPath installation := by
  rw [entries_nil] at h
  simp [newPath, h, ownPath]

theorem newPath_of_mem (h : installation.loaderPath ∈ entries installation pythonPath) :
    newPath installation pythonPath = ownPath installation := by
  cases pythonPath with
  | none => cases h
  | some path =>
      by_cases hpath : path = ""
      · simp [entries, hpath] at h
      · rw [entries_some installation hpath] at h
        simp [newPath, hpath, h, ownPath]

theorem join_ne_empty (first second : String) (rest : List String) :
    Text.join installation.pathsep (first :: second :: rest) ≠ "" := by
  intro hempty
  have hchars := congrArg String.toList hempty
  simp [Text.join, List.intercalate_cons_cons] at hchars

theorem newPath_of_not_mem {path : String} (hpath : path ≠ "")
    (h : installation.loaderPath ∉ entries installation (some path)) :
    newPath installation (some path) =
      Text.join installation.pathsep [installation.loaderPath, installation.hookPath, path] := by
  rw [entries_some installation hpath] at h
  simp [newPath, hpath, h, join_ne_empty]

theorem entries_ownPath : entries installation (some (ownPath installation)) =
    Text.split installation.pathsep installation.loaderPath ++
      Text.split installation.pathsep installation.hookPath := by
  have hne : ownPath installation ≠ "" := join_ne_empty installation _ _ []
  rw [entries_some installation hne, ownPath, Text.split_join_flatMap (List.cons_ne_nil _ _)]
  simp

theorem ownPath_ne (path : String) :
    ownPath installation ≠
      Text.join installation.pathsep [installation.loaderPath, installation.hookPath, path] := by
  intro heq
  have hsplit := congrArg (Text.split installation.pathsep) heq
  rw [ownPath, Text.split_join_flatMap (List.cons_ne_nil _ _),
    Text.split_join_flatMap (List.cons_ne_nil _ _)] at hsplit
  simp [Text.split_ne_nil] at hsplit

theorem not_mem_of_mem_entries {entry : String} (h : entry ∈ entries installation pythonPath) :
    installation.pathsep ∉ entry.toList := by
  cases pythonPath with
  | none => cases h
  | some path =>
      by_cases hpath : path = ""
      · simp [entries, hpath] at h
      · rw [entries_some installation hpath] at h
        exact Text.not_mem_of_mem_split h

section Own

variable (hloader : installation.pathsep ∉ installation.loaderPath.toList)

include hloader

theorem entries_ownPath_of_not_mem : entries installation (some (ownPath installation)) =
    installation.loaderPath :: Text.split installation.pathsep installation.hookPath := by
  rw [entries_ownPath, Text.split_of_not_mem hloader, List.singleton_append]

theorem newPath_ownPath :
    newPath installation (some (ownPath installation)) = ownPath installation := by
  refine newPath_of_mem installation ?_
  rw [entries_ownPath_of_not_mem installation hloader]
  exact List.mem_cons_self

end Own

/-- What the path is like of which a run and the next one lose nothing. -/
theorem own_iff : Own installation pythonPath ↔
    Preserves installation pythonPath (some (newPath installation pythonPath)) ∧
      newPath installation (some (newPath installation pythonPath)) =
        newPath installation pythonPath := by
  constructor
  · rintro ⟨hloader, hown⟩
    have hpath : newPath installation pythonPath = ownPath installation :=
      hown.elim (newPath_of_entries_nil installation) fun h => newPath_of_mem installation h.1
    have hentries := entries_ownPath_of_not_mem installation hloader
    rw [hpath]
    refine ⟨⟨?_, ?_, fun _ => ?_⟩, newPath_ownPath installation hloader⟩
    · rw [hentries]
      obtain hnil | ⟨-, hkept⟩ := hown
      · rw [hnil]
        exact List.nil_sublist _
      · exact hkept
    · rw [hentries]
      exact List.mem_cons_self
    · rw [hentries]
      rfl
  · rintro ⟨⟨hkept, hloaded, -⟩, hagain⟩
    have hloader := not_mem_of_mem_entries installation hloaded
    refine ⟨hloader, ?_⟩
    by_cases hnil : entries installation pythonPath = []
    · exact .inl hnil
    by_cases hmem : installation.loaderPath ∈ entries installation pythonPath
    · rw [newPath_of_mem installation hmem, entries_ownPath_of_not_mem installation hloader] at hkept
      exact .inr ⟨hmem, hkept⟩
    · cases pythonPath with
      | none => exact absurd rfl hnil
      | some path =>
          have hpath : path ≠ "" := fun h => hnil ((entries_nil installation).mpr h)
          -- the next run finds the loader directory, and drops the entries behind it
          rw [newPath_of_mem installation hloaded, newPath_of_not_mem installation hpath hmem] at hagain
          exact absurd hagain (ownPath_ne installation path)

/-- **The exported path.** Two runs one after the other keep every entry, and the second one changes
nothing, exactly if there was nothing on the path but what the agent has put there. -/
theorem python_path_preserved_iff (environ : Environ) {command command' : List String}
    {check check' : Bool} (found found' : Bool) (hprepared : Prepared command check environ)
    (hprepared' : Prepared command' check'
      (execute installation command check found environ).1) :
    (Preserves installation (environ "PYTHONPATH")
        ((execute installation command check found environ).1 "PYTHONPATH") ∧
      (execute installation command' check' found'
          (execute installation command check found environ).1).1 "PYTHONPATH" =
        (execute installation command check found environ).1 "PYTHONPATH") ↔
      Own installation (environ "PYTHONPATH") := by
  rw [execute_pythonPath installation hprepared', execute_pythonPath installation hprepared,
    own_iff, Option.some.injEq]

/-- The package as it is installed on a Unix system. -/
def sitePackages : Installation :=
  { pathsep := ':'
    loaderPath := "/site-packages/skywalking/bootstrap/loader"
    hookPath := "/site-packages/skywalking/bootstrap/hooks"
    pythonPrefix := "/usr"
    pythonVersion := "3.11.4"
    debug := false }

/-- The environment of a process with this path, and no other variables. -/
def withPath (path : String) : Environ := Function.update (fun _ => none) "PYTHONPATH" (some path)

/-- The path that the first of two nested runs leaves. -/
def ownEntries : String := "/site-packages/skywalking/bootstrap/loader:/site-packages/skywalking/bootstrap/hooks"

theorem own_entries_preserved :
    Preserves sitePackages (some ownEntries)
        ((execute sitePackages ["python", "app.py"] false true (withPath ownEntries)).1 "PYTHONPATH") ∧
      (execute sitePackages ["gunicorn", "app"] true true
          (execute sitePackages ["python", "app.py"] false true (withPath ownEntries)).1).1 "PYTHONPATH" =
        (execute sitePackages ["python", "app.py"] false true (withPath ownEntries)).1 "PYTHONPATH" := by
  have hown : Own sitePackages (withPath ownEntries "PYTHONPATH") :=
    ⟨by decide, .inr ⟨by decide +kernel, by decide +kernel⟩⟩
  exact (python_path_preserved_iff sitePackages (withPath ownEntries) true true (fun h => by cases h)
    fun _ => rfl).mpr hown

/-- The second of two nested runs drops the entry of the user. -/
theorem nested_run_drops_entry :
    ¬ ∀ (installation : Installation) (environ : Environ) (command command' : List String)
      (check check' found found' : Bool), Prepared command check environ →
      Prepared command' check' (execute installation command check found environ).1 →
      Preserves installation (environ "PYTHONPATH")
          ((execute installation command check found environ).1 "PYTHONPATH") ∧
        (execute installation command' check' found'
            (execute installation command check found environ).1).1 "PYTHONPATH" =
          (execute installation command check found environ).1 "PYTHONPATH" := by
  intro h
  have hnested := (h sitePackages (withPath "/srv/app") ["python", "app.py"] ["python", "app.py"] false
    false true true (fun h => by cases h) (fun h => by cases h)).2
  revert hnested
  decide +kernel

end Runner

end SkyWalking
