import Mathlib
import SkyWalking.Tls.TempFiles

/-!
# The bookkeeping of temporary PEM files

`_pem_bytes_to_temp_file` adds one file with the whole content, or nothing. What an operation does to
the disk concerns files of its own process only, so the other processes keep their books as well.
-/

namespace SkyWalking

namespace Tls

variable {v v' : View}

/-- However the writes are cut, what has been written is the content up to the offset. -/
theorem writeLoop_take (data : Bytes) (failure : Exn) (writes : List Nat) :
    ∀ offset content, offset ≤ data.length →
      writeLoop data failure writes (data.take offset) offset = .ok content → content = data := by
  induction writes with
  | nil =>
      intro offset content hle hok
      unfold writeLoop at hok
      split at hok
      · cases hok
      · next hend =>
        obtain rfl := Except.ok.inj hok
        exact List.take_of_length_le (Nat.not_lt.mp hend)
  | cons size writes ih =>
      intro offset content hle hok
      unfold writeLoop at hok
      split at hok
      · dsimp only at hok
        split at hok
        · cases hok
        · rw [← List.take_add] at hok
          exact ih _ content (by omega) hok
      · next hend =>
        obtain rfl := Except.ok.inj hok
        exact List.take_of_length_le (Nat.not_lt.mp hend)

theorem writeLoop_ok {data content : Bytes} {failure : Exn} {writes : List Nat}
    (h : writeLoop data failure writes [] 0 = .ok content) : content = data :=
  writeLoop_take data failure writes 0 content (Nat.zero_le _) h

/-- A write that fails raises what `os.write` raises, or `OSError`. -/
theorem writeLoop_error {data : Bytes} {exn : Exn} (writes : List Nat) :
    ∀ content offset, writeLoop data .osError writes content offset = .error exn → exn = .osError := by
  induction writes with
  | nil =>
      intro content offset herror
      unfold writeLoop at herror
      split at herror
      · exact (Except.error.inj herror).symm
      · cases herror
  | cons size writes ih =>
      intro content offset herror
      unfold writeLoop at herror
      split at herror
      · dsimp only at herror
        split at herror
        · exact (Except.error.inj herror).symm
        · exact ih _ _ herror
      · cases herror

theorem View.unlink_write {path : String} (hfresh : v.disk path = none) (content : Bytes) :
    (v.write path content).unlink path = v := by
  unfold View.unlink View.write
  congr 1
  funext other
  by_cases hsame : other = path
  · rw [hsame, Function.update_self, hfresh]
  · exact (Function.update_of_ne hsame ..).trans (Function.update_of_ne hsame ..)

theorem View.write_write (path : String) (first second : Bytes) :
    (v.write path first).write path second = v.write path second := by
  unfold View.write
  congr 1
  exact Function.update_idem ..

/-- What a call of `_pem_bytes_to_temp_file` comes to. -/
inductive Created (data : Bytes) (v : View) : Try String × View → Prop where
  | failed (exn : Exn) : Created data v (.error exn, v.ensureAtexit)
  | created (path : String) : v.disk path = none →
      Created data v (.ok path, (v.ensureAtexit.write path data).append path)

theorem pemBytesToTempFile_created (data : Bytes) (suffix : String) (answer : TempAnswer) (v : View) :
    Created data v (v.pemBytesToTempFile data suffix answer) := by
  unfold View.pemBytesToTempFile View.mkstemp
  cases hname : answer.mkstemp with
  | error exn => exact .failed exn
  | ok name =>
      by_cases hused : v.ensureAtexit.exists? (name ++ suffix) = true
      · simp only [if_pos hused]
        exact .failed .osError
      · have hfresh : v.disk (name ++ suffix) = none :=
          Option.isNone_iff_eq_none.mp (Option.isSome_eq_false_iff.mp (Bool.eq_false_of_not_eq_true hused))
        simp only [if_neg hused]
        cases hwrite : writeLoop data answer.failure answer.writes [] 0 with
        | error exn =>
            simp only [View.unlink_write (v := v.ensureAtexit) hfresh]
            exact .failed exn
        | ok content =>
            obtain rfl := writeLoop_ok hwrite
            simp only [View.write_write]
            exact .created _ hfresh

theorem pemBytesToTempFile_documented {data : Bytes} {suffix : String} {answer : TempAnswer}
    {v : View} {exn : Exn} (hanswer : answer.Documented)
    (h : (v.pemBytesToTempFile data suffix answer).1 = .error exn) : exn = .osError := by
  unfold View.pemBytesToTempFile View.mkstemp at h
  cases hname : answer.mkstemp with
  | error raised =>
      simp only [hname] at h
      obtain rfl := Except.error.inj h
      exact hanswer.mkstemp _ hname
  | ok name =>
      simp only [hname] at h
      by_cases hused : v.ensureAtexit.exists? (name ++ suffix) = true
      · simp only [if_pos hused] at h
        exact (Except.error.inj h).symm
      · simp only [if_neg hused, hanswer.failure] at h
        split at h
        · next hwrite =>
          obtain rfl := Except.error.inj h
          exact writeLoop_error _ _ _ hwrite
        · cases h

/-- The files of other processes are the same. -/
def Foreign (v v' : View) : Prop :=
  ∀ path owner content, owner ≠ some v.pid →
    (v'.disk path = some ⟨owner, content⟩ ↔ v.disk path = some ⟨owner, content⟩)

/-- An operation of the process keeps the books. -/
structure Keeps (v v' : View) : Prop where
  pid : v'.pid = v.pid
  foreign : Foreign v v'
  consistent : v.Consistent → v'.Consistent

theorem Keeps.refl (v : View) : Keeps v v := ⟨rfl, fun _ _ _ _ => Iff.rfl, id⟩

theorem Keeps.trans {v'' : View} (h : Keeps v v') (h' : Keeps v' v'') : Keeps v v'' where
  pid := h'.pid.trans h.pid
  foreign path owner content howner :=
    (h'.foreign path owner content (h.pid ▸ howner)).trans (h.foreign path owner content howner)
  consistent hv := h'.consistent (h.consistent hv)

theorem Keeps.ensureAtexit (v : View) : Keeps v v.ensureAtexit where
  pid := rfl
  foreign _ _ _ _ := Iff.rfl
  consistent h := ⟨h.nodup, h.tracked, h.ca, h.mtls⟩

/-- A path that is free is not listed. -/
theorem View.Consistent.fresh (h : v.Consistent) {path : String} (hfresh : v.disk path = none) :
    path ∉ v.globals.mtlsTempFiles := by
  intro hmem
  obtain ⟨content, hcontent⟩ := (h.tracked path).mp hmem
  rw [hfresh] at hcontent
  cases hcontent

/-- A file is added at a path that was free. -/
theorem Keeps.create {path : String} (hfresh : v.disk path = none) (data : Bytes) :
    Keeps v ((v.ensureAtexit.write path data).append path) := by
  have hkept : ∀ other file, v.disk other = some file →
      Function.update v.disk path (some ⟨some v.pid, data⟩) other = some file := by
    intro other file hother
    have hne : other ≠ path := by
      rintro rfl
      rw [hfresh] at hother
      cases hother
    rw [Function.update_of_ne hne, hother]
  refine ⟨rfl, fun other owner content howner => ?_, fun h => ⟨?_, fun other => ?_, ?_, ?_⟩⟩
  · change Function.update v.disk path _ other = _ ↔ _
    by_cases hsame : other = path
    · rw [hsame, Function.update_self, hfresh]
      constructor
      · intro hfile
        exact absurd (congrArg File.owner (Option.some.inj hfile)).symm howner
      · intro hfile
        cases hfile
    · rw [Function.update_of_ne hsame]
  · have hnew : path ∉ v.globals.mtlsTempFiles := h.fresh hfresh
    exact List.nodup_append.mpr ⟨h.nodup, List.nodup_singleton path, fun other hother last hlast heq =>
      hnew (List.mem_singleton.mp hlast ▸ heq ▸ hother)⟩
  · change other ∈ v.globals.mtlsTempFiles ++ [path] ↔
      ∃ content, Function.update v.disk path _ other = _
    rw [List.mem_append, List.mem_singleton]
    by_cases hsame : other = path
    · rw [hsame, Function.update_self]
      exact ⟨fun _ => ⟨data, rfl⟩, fun _ => .inr rfl⟩
    · rw [Function.update_of_ne hsame]
      exact (or_iff_left hsame).trans (h.tracked other)
  · intro other hother
    obtain ⟨key, hkey, hfile⟩ := h.ca other hother
    exact ⟨key, hkey, hkept other _ hfile⟩
  · intro certPath keyPath hpaths
    obtain ⟨certificateChain, privateKey, hkey, hcert, hfile⟩ := h.mtls certPath keyPath hpaths
    exact ⟨certificateChain, privateKey, hkey, hkept certPath _ hcert, hkept keyPath _ hfile⟩

theorem Keeps.caVerifyTempFile (rootCertificates : Bytes) (answer : TempAnswer) (v : View) :
    Keeps v (v.caVerifyTempFile rootCertificates answer).2 := by
  unfold View.caVerifyTempFile
  cases v.caCached rootCertificates with
  | some path => exact .refl v
  | none =>
      have hcreated := pemBytesToTempFile_created rootCertificates ".crt" answer v
      generalize v.pemBytesToTempFile rootCertificates ".crt" answer = result at hcreated ⊢
      cases hcreated with
      | failed exn => exact .ensureAtexit v
      | created path hfresh =>
          refine (Keeps.create hfresh rootCertificates).trans ⟨rfl, fun _ _ _ _ => Iff.rfl, fun h => ?_⟩
          refine ⟨h.nodup, h.tracked, fun other hother => ?_, h.mtls⟩
          obtain rfl := Option.some.inj hother
          exact ⟨rootCertificates, rfl, Function.update_self ..⟩

/-- The file that was created last is taken back. -/
theorem View.discard_created {path : String} (hfresh : v.disk path = none) (data : Bytes) :
    ((v.ensureAtexit.write path data).append path).ensureAtexit.discardMtlsTempPath (some path) =
      { v.ensureAtexit with
        globals := { v.ensureAtexit.globals with
          mtlsTempFiles := (v.globals.mtlsTempFiles ++ [path]).erase path } } := by
  have hdisk : ((v.write path data).unlink path).disk = v.disk :=
    congrArg View.disk (View.unlink_write hfresh data)
  unfold View.discardMtlsTempPath View.remove
  exact congrArg (fun disk => View.mk v.pid disk _) hdisk

theorem erase_append_new {path : String} {paths : List String} (hnew : path ∉ paths) :
    (paths ++ [path]).erase path = paths := by
  rw [List.erase_append_right _ hnew, List.erase_cons_head, List.append_nil]

/-- What a call of `_mtls_cert_key_files` comes to. After an `OSError` nothing is left of it, after
another exception the certificate may be. -/
inductive Paired (certificateChain privateKey : Bytes) (v : View) :
    Try (Option (String × String)) × View → Prop where
  | cached (paths : String × String) : v.mtlsCached certificateChain privateKey = some paths →
      Paired certificateChain privateKey v (.ok (some paths), v)
  | failed (result : Try (Option (String × String))) (paths : List String) :
      (∀ path, result ≠ .ok (some path)) →
      (v.Consistent → paths = v.globals.mtlsTempFiles) →
      Paired certificateChain privateKey v
        (result, { v.ensureAtexit with
          globals := { v.ensureAtexit.globals with mtlsTempFiles := paths } })
  | orphaned (certPath : String) (exn : Exn) : v.disk certPath = none → exn ≠ .osError →
      Paired certificateChain privateKey v
        (.error exn, ((v.ensureAtexit.write certPath certificateChain).append certPath).ensureAtexit)
  | created (certPath keyPath : String) (v' v'' : View) : v.disk certPath = none →
      v' = (v.ensureAtexit.write certPath certificateChain).append certPath →
      v'.disk keyPath = none → v'' = (v'.ensureAtexit.write keyPath privateKey).append keyPath →
      Paired certificateChain privateKey v
        (.ok (some (certPath, keyPath)),
          v''.setMtlsCache (certificateChain, privateKey) (certPath, keyPath))

theorem mtlsCertKeyFiles_paired (certificateChain privateKey : Bytes)
    (certAnswer keyAnswer : TempAnswer) (v : View) :
    Paired certificateChain privateKey v
      (v.mtlsCertKeyFiles certificateChain privateKey certAnswer keyAnswer) := by
  unfold View.mtlsCertKeyFiles
  cases hcached : v.mtlsCached certificateChain privateKey with
  | some paths => exact .cached paths hcached
  | none =>
      have hcert := pemBytesToTempFile_created certificateChain ".crt" certAnswer v
      generalize v.pemBytesToTempFile certificateChain ".crt" certAnswer = certResult at hcert ⊢
      cases hcert with
      | failed exn =>
          have hfailed := @Paired.failed certificateChain privateKey v
          cases exn with
          | osError => exact hfailed (.ok none) _ (by simp) fun _ => rfl
          | valueError => exact hfailed (.error .valueError) _ (by simp) fun _ => rfl
          | runtimeError => exact hfailed (.error .runtimeError) _ (by simp) fun _ => rfl
          | other => exact hfailed (.error .other) _ (by simp) fun _ => rfl
      | created certPath hfresh =>
          generalize hview : (v.ensureAtexit.write certPath certificateChain).append certPath = v'
          dsimp only
          have hkey := pemBytesToTempFile_created privateKey ".pem" keyAnswer v'
          generalize v'.pemBytesToTempFile privateKey ".pem" keyAnswer = keyResult at hkey ⊢
          cases hkey with
          | failed exn =>
              have horphaned := @Paired.orphaned certificateChain privateKey v certPath exn hfresh
              rw [hview] at horphaned
              cases exn with
              | osError =>
                  subst hview
                  dsimp only
                  rw [View.discard_created hfresh]
                  exact .failed (.ok none) _ (by simp) fun h => erase_append_new (h.fresh hfresh)
              | valueError => exact horphaned (by decide)
              | runtimeError => exact horphaned (by decide)
              | other => exact horphaned (by decide)
          | created keyPath hfresh' => exact .created certPath keyPath v' _ hfresh hview.symm hfresh' rfl

theorem Paired.keeps {certificateChain privateKey : Bytes}
    {result : Try (Option (String × String)) × View} (h : Paired certificateChain privateKey v result) :
    Keeps v result.2 := by
  cases h with
  | cached paths hcached => exact .refl v
  | failed result paths hnone hpaths =>
      refine ⟨rfl, fun _ _ _ _ => Iff.rfl, fun h => ?_⟩
      obtain rfl := hpaths h
      exact ⟨h.nodup, h.tracked, h.ca, h.mtls⟩
  | orphaned certPath exn hfresh hexn =>
      exact (Keeps.create hfresh certificateChain).trans (.ensureAtexit _)
  | created certPath keyPath v' v'' hfresh hv' hfresh' hv'' =>
      have hcert : Keeps v v' := hv' ▸ Keeps.create hfresh certificateChain
      have hkey : Keeps v' v'' := hv'' ▸ Keeps.create hfresh' privateKey
      refine (hcert.trans hkey).trans ⟨rfl, fun _ _ _ _ => Iff.rfl, fun h => ?_⟩
      refine ⟨h.nodup, h.tracked, h.ca, fun cert key hpaths => ?_⟩
      obtain ⟨rfl, rfl⟩ := Prod.mk.inj (Option.some.inj hpaths)
      refine ⟨certificateChain, privateKey, rfl, ?_, ?_⟩
      · -- The key is not where the certificate is.
        have hwritten : v'.disk certPath = some ⟨some v.pid, certificateChain⟩ := by
          rw [hv']
          exact Function.update_self ..
        have hne : certPath ≠ keyPath := by
          rintro rfl
          rw [hwritten] at hfresh'
          cases hfresh'
        change v''.disk certPath = some ⟨some v''.pid, certificateChain⟩
        rw [hkey.pid, hcert.pid, hv'']
        exact (Function.update_of_ne hne ..).trans hwritten
      · change v''.disk keyPath = some ⟨some v''.pid, privateKey⟩
        rw [hkey.pid, hv'']
        exact Function.update_self ..

theorem foldl_unlink (paths : List String) : ∀ v : View,
    paths.foldl (fun v path => v.unlink path) v =
      { v with disk := fun path => if path ∈ paths then none else v.disk path } := by
  induction paths with
  | nil => intro v; simp
  | cons head rest ih =>
      intro v
      rw [List.foldl_cons, ih]
      unfold View.unlink
      congr 1
      funext path
      by_cases hrest : path ∈ rest
      · simp [hrest]
      · by_cases hsame : path = head
        · simp [hsame]
        · simp [hrest, hsame]

/-- The cleanup removes what is listed. -/
theorem cleanup_disk (v : View) (path : String) :
    v.cleanup.disk path = if path ∈ v.globals.mtlsTempFiles then none else v.disk path := by
  unfold View.cleanup
  rw [foldl_unlink]

theorem cleanup_foreign (h : v.Consistent) : Foreign v v.cleanup := by
  intro path owner content howner
  rw [cleanup_disk]
  by_cases hmem : path ∈ v.globals.mtlsTempFiles
  · obtain ⟨own, hown⟩ := (h.tracked path).mp hmem
    rw [if_pos hmem, hown]
    constructor
    · intro hfile
      cases hfile
    · intro hfile
      exact absurd (congrArg File.owner (Option.some.inj hfile)).symm howner
  · rw [if_neg hmem]

/-- A process without files of its own has nothing to book. -/
theorem View.Consistent.of_cleared (g : Globals) (hglobals : v.globals = g.clear)
    (hnone : ∀ path content, v.disk path ≠ some ⟨some v.pid, content⟩) : v.Consistent := by
  refine ⟨?_, fun path => ?_, fun path hpath => ?_, fun certPath keyPath hpaths => ?_⟩
  · rw [hglobals]
    exact List.nodup_nil
  · rw [hglobals]
    constructor
    · intro hmem
      cases hmem
    · rintro ⟨content, hfile⟩
      exact absurd hfile (hnone path content)
  · rw [hglobals] at hpath
    cases hpath
  · rw [hglobals] at hpaths
    cases hpaths

theorem cleanup_pid (v : View) : v.cleanup.pid = v.pid := by
  unfold View.cleanup
  rw [foldl_unlink]

theorem cleanup_globals (v : View) : v.cleanup.globals = v.globals.clear := by
  unfold View.cleanup
  rw [foldl_unlink]

theorem cleanup_consistent (h : v.Consistent) : v.cleanup.Consistent := by
  apply View.Consistent.of_cleared v.globals (cleanup_globals v)
  intro path content hfile
  rw [cleanup_disk, cleanup_pid] at hfile
  by_cases hmem : path ∈ v.globals.mtlsTempFiles
  · rw [if_pos hmem] at hfile
    cases hfile
  · rw [if_neg hmem] at hfile
    exact hmem ((h.tracked path).mpr ⟨content, hfile⟩)

/-- Every process keeps its books, and the files belong to processes that are there. -/
structure World.Consistent (w : World) : Prop where
  views : ∀ pid v, w.view pid = some v → v.Consistent
  owners : ∀ path file pid, w.disk path = some file → file.owner = some pid →
    ∃ globals, w.processes pid = some globals

theorem World.view_eq {w : World} {pid : Nat} (h : w.view pid = some v) :
    v.pid = pid ∧ v.disk = w.disk ∧ w.processes pid = some v.globals := by
  obtain ⟨globals, hglobals, rfl⟩ := Option.map_eq_some_iff.mp h
  exact ⟨rfl, rfl, hglobals⟩

theorem World.view_of {w : World} {pid : Nat} {globals : Globals}
    (h : w.processes pid = some globals) : w.view pid = some ⟨pid, w.disk, globals⟩ := by
  unfold World.view
  rw [h]
  rfl

/-- The books of a process are about its own files only. -/
theorem View.Consistent.of_files (h : v.Consistent) (hglobals : v'.globals = v.globals)
    (hfiles : ∀ path content, v'.disk path = some ⟨some v'.pid, content⟩ ↔
      v.disk path = some ⟨some v.pid, content⟩) : v'.Consistent := by
  refine ⟨?_, fun path => ?_, fun path hpath => ?_, fun certPath keyPath hpaths => ?_⟩
  · rw [hglobals]
    exact h.nodup
  · rw [hglobals]
    exact (h.tracked path).trans (exists_congr fun content => (hfiles path content).symm)
  · rw [hglobals] at hpath ⊢
    obtain ⟨key, hkey, hfile⟩ := h.ca path hpath
    exact ⟨key, hkey, (hfiles path key).mpr hfile⟩
  · rw [hglobals] at hpaths ⊢
    obtain ⟨certificateChain, privateKey, hkey, hcert, hfile⟩ := h.mtls certPath keyPath hpaths
    exact ⟨certificateChain, privateKey, hkey, (hfiles _ _).mpr hcert, (hfiles _ _).mpr hfile⟩

/-- A process takes a step: the files of the others are the same, so are their books. -/
theorem World.Consistent.put {w : World} (hw : w.Consistent) {pid : Nat} (hview : w.view pid = some v)
    (hpid : v'.pid = v.pid) (hforeign : Foreign v v') (hown : v'.Consistent) :
    (w.put v').Consistent := by
  obtain ⟨hsame, hdisk, -⟩ := World.view_eq hview
  refine ⟨fun other view hother => ?_, fun path file other hfile howner => ?_⟩
  · obtain ⟨hview', hviewDisk, hglobals⟩ := World.view_eq hother
    change Function.update w.processes v'.pid (some v'.globals) other = _ at hglobals
    by_cases hself : other = v'.pid
    · rw [hself, Function.update_self] at hglobals
      refine hown.of_files (Option.some.inj hglobals).symm fun path content => ?_
      rw [hviewDisk, hview', hself]
      rfl
    · rw [Function.update_of_ne hself] at hglobals
      refine (hw.views other _ (World.view_of hglobals)).of_files rfl fun path content => ?_
      rw [hviewDisk, hview', ← hdisk]
      exact hforeign path (some other) content fun h => hself ((Option.some.inj h).trans hpid.symm)
  · change ∃ globals, Function.update w.processes v'.pid (some v'.globals) other = some globals
    by_cases hself : other = v'.pid
    · exact ⟨v'.globals, by rw [hself, Function.update_self]⟩
    · rw [Function.update_of_ne hself]
      obtain ⟨owner, content⟩ := file
      obtain rfl : owner = some other := howner
      have hne : (some other : Option Nat) ≠ some v.pid := fun h =>
        hself ((Option.some.inj h).trans hpid.symm)
      have hold := (hforeign path (some other) content hne).mp hfile
      exact hw.owners path _ other (hdisk ▸ hold) rfl

theorem World.Consistent.init (pid : Nat) (files : String → Option Bytes) :
    (World.init pid files).Consistent := by
  have hnobody : ∀ path file, (World.init pid files).disk path = some file → file.owner = none := by
    intro path file hfile
    obtain ⟨content, -, rfl⟩ := Option.map_eq_some_iff.mp hfile
    rfl
  refine ⟨fun other v hview => ?_, fun path file other hfile howner => ?_⟩
  · obtain ⟨-, hdisk, hglobals⟩ := World.view_eq hview
    change Function.update (fun _ => none) pid (some Globals.init) other = _ at hglobals
    have hinit : v.globals = .init := by
      by_cases hsame : other = pid
      · rw [hsame, Function.update_self] at hglobals
        exact (Option.some.inj hglobals).symm
      · rw [Function.update_of_ne hsame] at hglobals
        cases hglobals
    apply View.Consistent.of_cleared .init hinit
    intro path content hfile
    rw [hdisk] at hfile
    cases hnobody path _ hfile
  · rw [hnobody path file hfile] at howner
    cases howner

theorem World.Consistent.fork {w w' : World} (hw : w.Consistent) {parent child : Nat}
    (hstep : w.fork parent child = some w') : w'.Consistent := by
  unfold World.fork at hstep
  split at hstep
  · next globals hparent hchild =>
    obtain rfl := Option.some.inj hstep
    refine ⟨fun other view hview => ?_, fun path file other hfile howner => ?_⟩
    · obtain ⟨hpid, hdisk, hglobals⟩ := World.view_eq hview
      change Function.update w.processes child (some globals.afterForkInChild) other = _ at hglobals
      by_cases hnew : other = child
      · rw [hnew, Function.update_self] at hglobals
        apply View.Consistent.of_cleared globals (Option.some.inj hglobals).symm
        intro path content hfile
        rw [hpid, hnew, hdisk] at hfile
        obtain ⟨old, hold⟩ := hw.owners path _ child hfile rfl
        rw [hchild] at hold
        cases hold
      · rw [Function.update_of_ne hnew] at hglobals
        refine (hw.views other _ (World.view_of hglobals)).of_files rfl fun path content => ?_
        rw [hdisk, hpid]
    · obtain ⟨old, hold⟩ := hw.owners path file other hfile howner
      have hne : other ≠ child := by
        rintro rfl
        rw [hchild] at hold
        cases hold
      exact ⟨old, (Function.update_of_ne hne ..).trans hold⟩
  · cases hstep

theorem World.Consistent.step {w w' : World} (hw : w.Consistent) {op : Op} (hstep : Step w op w') :
    w'.Consistent := by
  unfold Step at hstep
  cases op with
  | caVerifyTempFile pid rootCertificates answer =>
      obtain ⟨v, hview, rfl⟩ := Option.map_eq_some_iff.mp hstep
      have hkeeps := Keeps.caVerifyTempFile rootCertificates answer v
      exact hw.put hview hkeeps.pid hkeeps.foreign (hkeeps.consistent (hw.views pid v hview))
  | mtlsCertKeyFiles pid certificateChain privateKey certAnswer keyAnswer =>
      obtain ⟨v, hview, rfl⟩ := Option.map_eq_some_iff.mp hstep
      have hkeeps := (mtlsCertKeyFiles_paired certificateChain privateKey certAnswer keyAnswer v).keeps
      exact hw.put hview hkeeps.pid hkeeps.foreign (hkeeps.consistent (hw.views pid v hview))
  | cleanup pid =>
      obtain ⟨v, hview, rfl⟩ := Option.map_eq_some_iff.mp hstep
      have hown := hw.views pid v hview
      exact hw.put hview (cleanup_pid v) (cleanup_foreign hown) (cleanup_consistent hown)
  | fork parent child => exact hw.fork hstep

theorem View.Untouched.ensureAtexit (v : View) : v.Untouched v.ensureAtexit :=
  ⟨rfl, rfl, rfl, rfl, rfl, rfl⟩

theorem caVerifyTempFile_failed {rootCertificates : Bytes} {answer : TempAnswer} {exn : Exn}
    (h : (v.caVerifyTempFile rootCertificates answer).1 = .error exn) :
    v.Untouched (v.caVerifyTempFile rootCertificates answer).2 := by
  unfold View.caVerifyTempFile at h ⊢
  cases hcached : v.caCached rootCertificates with
  | some path =>
      rw [hcached] at h
      cases h
  | none =>
      rw [hcached] at h
      have hcreated := pemBytesToTempFile_created rootCertificates ".crt" answer v
      generalize v.pemBytesToTempFile rootCertificates ".crt" answer = result at h hcreated ⊢
      cases hcreated with
      | failed exn => exact .ensureAtexit v
      | created path hfresh => cases h

/-- `_mtls_cert_key_files` handles the failures that are documented. -/
theorem mtlsCertKeyFiles_documented {certAnswer keyAnswer : TempAnswer} (hcert : certAnswer.Documented)
    (hkey : keyAnswer.Documented) (certificateChain privateKey : Bytes) (v : View) (exn : Exn) :
    (v.mtlsCertKeyFiles certificateChain privateKey certAnswer keyAnswer).1 ≠ .error exn := by
  unfold View.mtlsCertKeyFiles
  intro herror
  split at herror
  · cases herror
  · split at herror
    · cases herror
    · next exn' v' hne hfirst =>
      have hraised := pemBytesToTempFile_documented hcert (congrArg Prod.fst hfirst)
      exact hne hraised
    · next certPath v' hfirst =>
      split at herror
      · cases herror
      · next exn' v'' hne hsecond =>
        have hraised := pemBytesToTempFile_documented hkey (congrArg Prod.fst hsecond)
        exact hne hraised
      · cases herror

/-- After an `OSError` nothing is left of the call. -/
theorem mtlsCertKeyFiles_failed {certificateChain privateKey : Bytes}
    {certAnswer keyAnswer : TempAnswer} (hv : v.Consistent) (hcert : certAnswer.Documented)
    (hkey : keyAnswer.Documented)
    (h : ∀ paths, (v.mtlsCertKeyFiles certificateChain privateKey certAnswer keyAnswer).1 ≠
      .ok (some paths)) :
    v.Untouched (v.mtlsCertKeyFiles certificateChain privateKey certAnswer keyAnswer).2 := by
  have herror : ∀ exn,
      (v.mtlsCertKeyFiles certificateChain privateKey certAnswer keyAnswer).1 ≠ .error exn :=
    mtlsCertKeyFiles_documented hcert hkey certificateChain privateKey v
  have hpaired := mtlsCertKeyFiles_paired certificateChain privateKey certAnswer keyAnswer v
  generalize v.mtlsCertKeyFiles certificateChain privateKey certAnswer keyAnswer = result
    at h herror hpaired ⊢
  cases hpaired with
  | cached paths hcached => exact absurd rfl (h paths)
  | failed result paths hnone hpaths => exact ⟨rfl, hpaths hv, rfl, rfl, rfl, rfl⟩
  | orphaned certPath exn hfresh hexn => exact absurd rfl (herror exn)
  | created certPath keyPath v' v'' hfresh hv' hfresh' hv'' => exact absurd rfl (h _)

/-- **The books of the temporary files are kept.** In every run of the operations, in any number of
processes. -/
theorem temp_files_bookkept (pid : Nat) (files : String → Option Bytes) {ops : List Op} {w : World}
    (hrun : Run Step (.init pid files) ops w) : w.Bookkept := by
  have hw : w.Consistent :=
    hrun.invariant (fun _ _ _ h hstep => h.step hstep) (World.Consistent.init pid files)
  refine ⟨hw.views, ?_, ?_, ?_⟩
  · intro pid v rootCertificates answer exn _ hfailed
    exact caVerifyTempFile_failed hfailed
  · intro pid v certificateChain privateKey certAnswer keyAnswer hview hcert hkey hfailed
    exact mtlsCertKeyFiles_failed (hw.views pid v hview) hcert hkey hfailed
  · intro pid w' path file hstep hfile howner
    obtain ⟨v, hview, rfl⟩ := Option.map_eq_some_iff.mp hstep
    obtain ⟨hpid, hdisk, -⟩ := World.view_eq hview
    rw [← hpid] at howner
    rw [← hdisk] at hfile
    exact (cleanup_foreign (hw.views pid v hview) path file.owner file.content howner).mpr hfile

/-- The process writes a pair and a CA file, forks, and writes the CA again in the child; the child
fails with a second pair, and cleans up. -/
def forked : List Op :=
  [.mtlsCertKeyFiles 1 [10, 11] [12] ⟨.ok "a", [1, 5], .osError⟩ ⟨.ok "b", [1], .osError⟩,
    .caVerifyTempFile 1 [13] ⟨.ok "c", [1], .osError⟩,
    .fork 1 2,
    .caVerifyTempFile 2 [13] ⟨.ok "d", [1], .osError⟩,
    .mtlsCertKeyFiles 2 [10, 11] [12] ⟨.ok "e", [2], .osError⟩ ⟨.ok "f", [0], .osError⟩,
    .cleanup 2]

theorem forked_bookkept :
    ∃ w, Run Step (.init 1 fun _ => none) forked w ∧
      (w.disk "a.crt" = some ⟨some 1, [10, 11]⟩ ∧ w.disk "b.pem" = some ⟨some 1, [12]⟩ ∧
        w.disk "d.crt" = none ∧ w.disk "e.crt" = none) ∧ w.Bookkept := by
  have hresult : ∃ w, Run Step (.init 1 fun _ => none) forked w ∧
      (w.disk "a.crt" = some ⟨some 1, [10, 11]⟩ ∧ w.disk "b.pem" = some ⟨some 1, [12]⟩ ∧
        w.disk "d.crt" = none ∧ w.disk "e.crt" = none) := by
    apply Run.exists_of_foldlM
    decide +kernel
  obtain ⟨w, hrun, hfiles⟩ := hresult
  exact ⟨w, hrun, hfiles, temp_files_bookkept 1 (fun _ => none) hrun⟩

end Tls

end SkyWalking
