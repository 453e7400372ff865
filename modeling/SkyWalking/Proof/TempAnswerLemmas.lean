import Mathlib
import SkyWalking.Proof.TempFilesLemmas
import SkyWalking.Tls.Degrade

/-!
# When a temporary file is written

The outcome of each operation on temporary files, from the answers that it meets and the paths that are
in use before it: the loop over `os.write` first, then one file, the snapshot of the CA and the two files
of a client identity.
-/

namespace SkyWalking

namespace Tls

variable {v : View}

theorem covered_zero (writes : List Nat) : Covered 0 writes :=
  ⟨0, Nat.zero_le _, fun size hsize => by simp at hsize, Nat.zero_le _⟩

theorem not_covered_nil {needed : Nat} (hneeded : 0 < needed) : ¬ Covered needed [] := by
  rintro ⟨calls, -, -, hle⟩
  rw [List.take_nil, List.sum_nil] at hle
  omega

theorem covered_cons {needed size : Nat} {writes : List Nat} (hneeded : 0 < needed) :
    Covered needed (size :: writes) ↔ 0 < size ∧ Covered (needed - size) writes := by
  constructor
  · rintro ⟨calls, hcalls, hpositive, hle⟩
    cases calls with
    | zero =>
        rw [List.take_zero, List.sum_nil] at hle
        omega
    | succ calls =>
        rw [List.take_succ_cons] at hpositive hle
        rw [List.sum_cons] at hle
        refine ⟨hpositive size List.mem_cons_self, calls, Nat.le_of_succ_le_succ hcalls, ?_, by omega⟩
        exact fun other hother => hpositive other (List.mem_cons_of_mem _ hother)
  · rintro ⟨hsize, calls, hcalls, hpositive, hle⟩
    refine ⟨calls + 1, Nat.succ_le_succ hcalls, ?_, ?_⟩
    · rw [List.take_succ_cons]
      exact List.forall_mem_cons.mpr ⟨hsize, hpositive⟩
    · rw [List.take_succ_cons, List.sum_cons]
      omega

/-- By induction on the calls: each of them takes in what it can of the rest. -/
theorem writeLoop_covered (data : Bytes) (failure : Exn) (writes : List Nat) :
    ∀ content offset,
      (Covered (data.length - offset) writes →
        ∃ written, writeLoop data failure writes content offset = .ok written) ∧
      (¬ Covered (data.length - offset) writes →
        writeLoop data failure writes content offset =
          .error (if 0 ∈ writes then .osError else failure)) := by
  induction writes with
  | nil =>
      intro content offset
      unfold writeLoop
      split
      · next hlt =>
        have hneeded : 0 < data.length - offset := by omega
        exact ⟨fun h => absurd h (not_covered_nil hneeded), fun _ => rfl⟩
      · next hend =>
        have hnone : data.length - offset = 0 := by omega
        rw [hnone]
        exact ⟨fun _ => ⟨content, rfl⟩, fun h => absurd (covered_zero _) h⟩
  | cons size writes ih =>
      intro content offset
      unfold writeLoop
      split
      · next hlt =>
        have hneeded : 0 < data.length - offset := by omega
        rw [covered_cons hneeded]
        dsimp only
        split
        · next hzero =>
          obtain rfl : size = 0 := by omega
          exact ⟨fun h => absurd h.1 (lt_irrefl _), fun _ => by rw [if_pos List.mem_cons_self]⟩
        · next hpositive =>
          have hsize : 0 < size := by omega
          have hrest : data.length - (offset + min size (data.length - offset)) =
              data.length - offset - size := by omega
          obtain ⟨hok, herror⟩ := ih (content ++ (data.drop offset).take
            (min size (data.length - offset))) (offset + min size (data.length - offset))
          rw [hrest] at hok herror
          refine ⟨fun h => hok h.2, fun h => ?_⟩
          rw [herror fun hcovered => h ⟨hsize, hcovered⟩]
          simp only [List.mem_cons, hsize.ne, false_or]
      · next hend =>
        have hnone : data.length - offset = 0 := by omega
        rw [hnone]
        exact ⟨fun _ => ⟨content, rfl⟩, fun h => absurd (covered_zero _) h⟩

/-- What a call of `_pem_bytes_to_temp_file` comes to, by its answers. -/
inductive Tempted (data : Bytes) (suffix : String) (used : String → Prop) (answer : TempAnswer) :
    Try String → Prop where
  | written (path : String) : answer.Writes data suffix used path →
      Tempted data suffix used answer (.ok path)
  | failed (exn : Exn) : answer.Fails data suffix used exn →
      Tempted data suffix used answer (.error exn)

theorem pemBytesToTempFile_tempted (data : Bytes) (suffix : String) (answer : TempAnswer) (v : View) :
    Tempted data suffix v.Used answer (v.pemBytesToTempFile data suffix answer).1 := by
  unfold View.pemBytesToTempFile View.mkstemp
  cases hname : answer.mkstemp with
  | error exn => exact .failed exn (.inl hname)
  | ok name =>
      have hused : v.ensureAtexit.exists? (name ++ suffix) = true ↔ v.Used (name ++ suffix) :=
        Option.isSome_iff_ne_none
      by_cases hexists : v.ensureAtexit.exists? (name ++ suffix) = true
      · simp only [if_pos hexists]
        exact .failed _ (.inr ⟨name, hname, .inl ⟨hused.mp hexists, rfl⟩⟩)
      · have hfree := hused.not.mp hexists
        simp only [if_neg hexists]
        obtain ⟨hok, herror⟩ := writeLoop_covered data answer.failure answer.writes [] 0
        by_cases hcovered : Covered data.length answer.writes
        · obtain ⟨written, hwritten⟩ := hok hcovered
          rw [hwritten]
          exact .written _ ⟨name, hname, rfl, hfree, hcovered⟩
        · rw [herror hcovered]
          exact .failed _ (.inr ⟨name, hname, .inr ⟨hfree, hcovered, rfl⟩⟩)

section Exclusive

variable {data : Bytes} {suffix : String} {used : String → Prop} {answer : TempAnswer}

theorem TempAnswer.Writes.not_fails {path : String} (h : answer.Writes data suffix used path)
    (exn : Exn) : ¬ answer.Fails data suffix used exn := by
  obtain ⟨name, hname, rfl, hfree, hcovered⟩ := h
  rintro (hfails | ⟨other, hother, hfails⟩)
  · rw [hname] at hfails
    cases hfails
  · obtain rfl := Except.ok.inj (hname.symm.trans hother)
    obtain ⟨hused, -⟩ | ⟨-, hshort, -⟩ := hfails
    · exact hfree hused
    · exact hshort hcovered

theorem TempAnswer.Writes.path_eq {path path' : String} (h : answer.Writes data suffix used path)
    (h' : answer.Writes data suffix used path') : path = path' := by
  obtain ⟨name, hname, rfl, -⟩ := h
  obtain ⟨name', hname', rfl, -⟩ := h'
  obtain rfl := Except.ok.inj (hname.symm.trans hname')
  rfl

theorem TempAnswer.Fails.exn_eq {exn exn' : Exn} (h : answer.Fails data suffix used exn)
    (h' : answer.Fails data suffix used exn') : exn = exn' := by
  obtain h | ⟨name, hname, h⟩ := h
  · obtain h' | ⟨name, hname, -⟩ := h'
    · exact Except.error.inj (h.symm.trans h')
    · rw [h] at hname
      cases hname
  · obtain h' | ⟨other, hother, h'⟩ := h'
    · rw [hname] at h'
      cases h'
    · obtain rfl := Except.ok.inj (hname.symm.trans hother)
      obtain ⟨hused, rfl⟩ | ⟨hfree, -, rfl⟩ := h
      · obtain ⟨-, rfl⟩ | ⟨hfree, -, -⟩ := h'
        · rfl
        · exact absurd hused hfree
      · obtain ⟨hused, -⟩ | ⟨-, -, rfl⟩ := h'
        · exact absurd hused hfree
        · rfl

theorem TempAnswer.Writes.congr {used' : String → Prop} {path : String}
    (hsame : ∀ name, used (name ++ suffix) ↔ used' (name ++ suffix)) :
    answer.Writes data suffix used path ↔ answer.Writes data suffix used' path := by
  constructor
  · rintro ⟨name, hname, rfl, hfree, hcovered⟩
    exact ⟨name, hname, rfl, (hsame name).not.mp hfree, hcovered⟩
  · rintro ⟨name, hname, rfl, hfree, hcovered⟩
    exact ⟨name, hname, rfl, (hsame name).not.mpr hfree, hcovered⟩

theorem TempAnswer.Fails.congr {used' : String → Prop} {exn : Exn}
    (hsame : ∀ name, used (name ++ suffix) ↔ used' (name ++ suffix)) :
    answer.Fails data suffix used exn ↔ answer.Fails data suffix used' exn := by
  simp only [TempAnswer.Fails, hsame]

end Exclusive

/-- The snapshot of the CA fails if it is not cached and cannot be written. -/
theorem caVerifyTempFile_error_iff {roots : Bytes} {answer : TempAnswer} {exn : Exn} :
    (v.caVerifyTempFile roots answer).1 = .error exn ↔
      v.caCached roots = none ∧ answer.Fails roots ".crt" v.Used exn := by
  unfold View.caVerifyTempFile
  cases hcached : v.caCached roots with
  | some path =>
      constructor
      · intro h
        cases h
      · intro h
        cases h.1
  | none =>
      have htempted := pemBytesToTempFile_tempted roots ".crt" answer v
      dsimp only
      generalize v.pemBytesToTempFile roots ".crt" answer = result at htempted ⊢
      obtain ⟨outcome, v'⟩ := result
      cases htempted with
      | written path hwrites =>
          constructor
          · intro h
            cases h
          · intro h
            exact absurd h.2 (hwrites.not_fails exn)
      | failed raised hfails =>
          constructor
          · intro h
            obtain rfl := Except.error.inj h
            exact ⟨rfl, hfails⟩
          · intro h
            rw [hfails.exn_eq h.2]

/-- The snapshot is one more path in use, if it is written. -/
theorem caVerifyTempFile_used (roots : Bytes) (answer : TempAnswer) (v : View) (path : String) :
    (v.caVerifyTempFile roots answer).2.Used path ↔
      v.Used path ∨ v.caCached roots = none ∧ answer.Writes roots ".crt" v.Used path := by
  unfold View.caVerifyTempFile
  cases hcached : v.caCached roots with
  | some cached => simp
  | none =>
      have htempted := pemBytesToTempFile_tempted roots ".crt" answer v
      have hcreated := pemBytesToTempFile_created roots ".crt" answer v
      dsimp only
      generalize v.pemBytesToTempFile roots ".crt" answer = result at htempted hcreated ⊢
      obtain ⟨outcome, v'⟩ := result
      cases htempted with
      | failed exn hfails =>
          cases hcreated
          refine (or_iff_left_of_imp fun h => ?_).symm
          exact absurd hfails (h.2.not_fails exn)
      | written written hwrites =>
          cases hcreated
          have honly : answer.Writes roots ".crt" v.Used path ↔ path = written := by
            constructor
            · exact fun h => h.path_eq hwrites
            · rintro rfl
              exact hwrites
          rw [honly]
          change Function.update v.disk written (some ⟨some v.pid, roots⟩) path ≠ none ↔ _
          by_cases hsame : path = written
          · subst hsame
            simp
          · rw [Function.update_of_ne hsame]
            simp [hsame, View.Used]

/-- The files of the client identity that are cached stay cached. -/
theorem caVerifyTempFile_mtlsCached (roots : Bytes) (answer : TempAnswer) (v : View)
    (certificateChain privateKey : Bytes) :
    (v.caVerifyTempFile roots answer).2.mtlsCached certificateChain privateKey =
      v.mtlsCached certificateChain privateKey := by
  unfold View.caVerifyTempFile
  cases v.caCached roots with
  | some cached => rfl
  | none =>
      have hcreated := pemBytesToTempFile_created roots ".crt" answer v
      dsimp only
      generalize v.pemBytesToTempFile roots ".crt" answer = result at hcreated ⊢
      cases hcreated with
      | failed exn => rfl
      | created path _ => rfl

/-- A certificate and a key have different paths. -/
theorem crt_ne_pem (name name' : String) : name ++ ".crt" ≠ name' ++ ".pem" := by
  intro h
  have hlast := congrArg (fun text => text.toList.getLast?) h
  have hcrt : ".crt".toList = ['.', 'c', 'r'] ++ ['t'] := by decide
  have hpem : ".pem".toList = ['.', 'p', 'e'] ++ ['m'] := by decide
  simp only [String.toList_append, hcrt, hpem, ← List.append_assoc, List.getLast?_append,
    List.getLast?_singleton, Option.some_or, Option.some.injEq] at hlast
  exact absurd hlast (by decide)

/-- What a call of `_mtls_cert_key_files` comes to, by its answers. -/
inductive Filed (certificateChain privateKey : Bytes) (certAnswer keyAnswer : TempAnswer) (v : View) :
    Try (Option (String × String)) → Prop where
  | files (pair : String × String) :
      v.IdentityFiles certificateChain privateKey certAnswer keyAnswer v.Used →
      ¬ v.IdentityFilesEscape certificateChain privateKey certAnswer keyAnswer v.Used →
      Filed certificateChain privateKey certAnswer keyAnswer v (.ok (some pair))
  | dropped : ¬ v.IdentityFiles certificateChain privateKey certAnswer keyAnswer v.Used →
      ¬ v.IdentityFilesEscape certificateChain privateKey certAnswer keyAnswer v.Used →
      Filed certificateChain privateKey certAnswer keyAnswer v (.ok none)
  | escaped (exn : Exn) :
      ¬ v.IdentityFiles certificateChain privateKey certAnswer keyAnswer v.Used →
      v.IdentityFilesEscape certificateChain privateKey certAnswer keyAnswer v.Used →
      Filed certificateChain privateKey certAnswer keyAnswer v (.error exn)

section Filed

variable {certificateChain privateKey : Bytes} {certAnswer keyAnswer : TempAnswer}

/-- The certificate cannot be written. -/
theorem filed_of_cert_fails (hcached : v.mtlsCached certificateChain privateKey = none) {exn : Exn}
    (hfails : certAnswer.Fails certificateChain ".crt" v.Used exn) :
    ¬ v.IdentityFiles certificateChain privateKey certAnswer keyAnswer v.Used ∧
      (v.IdentityFilesEscape certificateChain privateKey certAnswer keyAnswer v.Used ↔
        exn ≠ .osError) := by
  refine ⟨?_, ?_, fun hexn => ⟨hcached, exn, hexn, .inl hfails⟩⟩
  · rintro (h | ⟨⟨path, hwrites⟩, -⟩)
    · exact h hcached
    · exact hwrites.not_fails exn hfails
  · rintro ⟨-, raised, hraised, hcert | ⟨⟨path, hwrites⟩, -⟩⟩
    · rwa [hfails.exn_eq hcert]
    · exact absurd hfails (hwrites.not_fails exn)

/-- The certificate is written, and the key cannot be. -/
theorem filed_of_key_fails (hcached : v.mtlsCached certificateChain privateKey = none) {path : String}
    (hwrites : certAnswer.Writes certificateChain ".crt" v.Used path) {exn : Exn}
    (hfails : keyAnswer.Fails privateKey ".pem" v.Used exn) :
    ¬ v.IdentityFiles certificateChain privateKey certAnswer keyAnswer v.Used ∧
      (v.IdentityFilesEscape certificateChain privateKey certAnswer keyAnswer v.Used ↔
        exn ≠ .osError) := by
  refine ⟨?_, ?_, fun hexn => ⟨hcached, exn, hexn, .inr ⟨⟨path, hwrites⟩, hfails⟩⟩⟩
  · rintro (h | ⟨-, keyPath, hkey⟩)
    · exact h hcached
    · exact hkey.not_fails exn hfails
  · rintro ⟨-, raised, hraised, hcert | ⟨-, hkey⟩⟩
    · exact absurd hcert (hwrites.not_fails raised)
    · rwa [hfails.exn_eq hkey]

theorem mtlsCertKeyFiles_filed (certificateChain privateKey : Bytes)
    (certAnswer keyAnswer : TempAnswer) (v : View) :
    Filed certificateChain privateKey certAnswer keyAnswer v
      (v.mtlsCertKeyFiles certificateChain privateKey certAnswer keyAnswer).1 := by
  have hraised : ∀ {exn : Exn},
      ¬ v.IdentityFiles certificateChain privateKey certAnswer keyAnswer v.Used ∧
        (v.IdentityFilesEscape certificateChain privateKey certAnswer keyAnswer v.Used ↔
          exn ≠ .osError) →
      (exn = .osError → Filed certificateChain privateKey certAnswer keyAnswer v (.ok none)) ∧
        (exn ≠ .osError → Filed certificateChain privateKey certAnswer keyAnswer v (.error exn)) := by
    rintro exn ⟨hnone, hescapes⟩
    refine ⟨fun hexn => .dropped hnone fun h => hescapes.mp h hexn, fun hexn => ?_⟩
    exact .escaped exn hnone (hescapes.mpr hexn)
  unfold View.mtlsCertKeyFiles
  cases hcached : v.mtlsCached certificateChain privateKey with
  | some paths =>
      refine .files paths (.inl (by simp [hcached])) ?_
      rintro ⟨hnone, -⟩
      rw [hcached] at hnone
      cases hnone
  | none =>
      have hcert := pemBytesToTempFile_tempted certificateChain ".crt" certAnswer v
      have hcreated := pemBytesToTempFile_created certificateChain ".crt" certAnswer v
      generalize v.pemBytesToTempFile certificateChain ".crt" certAnswer = certResult at hcert hcreated ⊢
      obtain ⟨outcome, v'⟩ := certResult
      dsimp only at hcert
      cases hcert with
      | failed exn hfails =>
          obtain ⟨hdropped, hescaped⟩ := hraised (filed_of_cert_fails hcached hfails)
          cases exn with
          | osError => exact hdropped rfl
          | valueError => exact hescaped (by decide)
          | runtimeError => exact hescaped (by decide)
          | other => exact hescaped (by decide)
      | written certPath hwrites =>
          have hused : ∀ name, v'.Used (name ++ ".pem") ↔ v.Used (name ++ ".pem") := by
            intro name
            obtain ⟨certName, -, rfl, -⟩ := hwrites
            cases hcreated
            have hother : Function.update v.disk (certName ++ ".crt")
                (some ⟨some v.pid, certificateChain⟩) (name ++ ".pem") = v.disk (name ++ ".pem") :=
              Function.update_of_ne (crt_ne_pem certName name).symm ..
            exact not_congr (by rw [← hother]; rfl)
          have hkey := pemBytesToTempFile_tempted privateKey ".pem" keyAnswer v'
          dsimp only
          generalize v'.pemBytesToTempFile privateKey ".pem" keyAnswer = keyResult at hkey ⊢
          obtain ⟨outcome, v''⟩ := keyResult
          dsimp only at hkey
          cases hkey with
          | failed exn hfails =>
              have hfails' := (TempAnswer.Fails.congr hused).mp hfails
              obtain ⟨hdropped, hescaped⟩ := hraised (filed_of_key_fails hcached hwrites hfails')
              cases exn with
              | osError => exact hdropped rfl
              | valueError => exact hescaped (by decide)
              | runtimeError => exact hescaped (by decide)
              | other => exact hescaped (by decide)
          | written keyPath hwritesKey =>
              have hwritesKey' := (TempAnswer.Writes.congr hused).mp hwritesKey
              refine .files _ (.inr ⟨⟨certPath, hwrites⟩, keyPath, hwritesKey'⟩) ?_
              rintro ⟨-, exn, -, hfails | ⟨-, hfails⟩⟩
              · exact hwrites.not_fails exn hfails
              · exact hwritesKey'.not_fails exn hfails

theorem mtlsCertKeyFiles_pair_iff :
    (∃ pair, (v.mtlsCertKeyFiles certificateChain privateKey certAnswer keyAnswer).1 =
      .ok (some pair)) ↔ v.IdentityFiles certificateChain privateKey certAnswer keyAnswer v.Used := by
  have hfiled := mtlsCertKeyFiles_filed certificateChain privateKey certAnswer keyAnswer v
  generalize (v.mtlsCertKeyFiles certificateChain privateKey certAnswer keyAnswer).1 = outcome
    at hfiled ⊢
  cases hfiled with
  | files pair hfiles _ => exact ⟨fun _ => hfiles, fun _ => ⟨pair, rfl⟩⟩
  | dropped hnone _ => exact ⟨(fun ⟨_, h⟩ => by cases h), fun h => absurd h hnone⟩
  | escaped exn hnone _ => exact ⟨(fun ⟨_, h⟩ => by cases h), fun h => absurd h hnone⟩

theorem mtlsCertKeyFiles_past_iff :
    Past (fun _ => false) (v.mtlsCertKeyFiles certificateChain privateKey certAnswer keyAnswer).1 ↔
      v.IdentityFilesEscape certificateChain privateKey certAnswer keyAnswer v.Used := by
  have hfiled := mtlsCertKeyFiles_filed certificateChain privateKey certAnswer keyAnswer v
  generalize (v.mtlsCertKeyFiles certificateChain privateKey certAnswer keyAnswer).1 = outcome
    at hfiled ⊢
  cases hfiled with
  | files pair _ hcalm => exact ⟨(fun ⟨_, h, _⟩ => by cases h), fun h => absurd h hcalm⟩
  | dropped _ hcalm => exact ⟨(fun ⟨_, h, _⟩ => by cases h), fun h => absurd h hcalm⟩
  | escaped exn _ hescapes => exact ⟨fun _ => hescapes, fun _ => ⟨exn, rfl, rfl⟩⟩

/-- Whether there are files depends on the paths in use and on the cache. -/
theorem View.IdentityFiles.congr {v' : View} {used used' : String → Prop}
    (hcached : v'.mtlsCached certificateChain privateKey = v.mtlsCached certificateChain privateKey)
    (hused : ∀ path, used' path ↔ used path) :
    v'.IdentityFiles certificateChain privateKey certAnswer keyAnswer used' ↔
      v.IdentityFiles certificateChain privateKey certAnswer keyAnswer used := by
  obtain rfl : used' = used := funext fun path => propext (hused path)
  rw [View.IdentityFiles, View.IdentityFiles, hcached]

theorem View.IdentityFilesEscape.congr {v' : View} {used used' : String → Prop}
    (hcached : v'.mtlsCached certificateChain privateKey = v.mtlsCached certificateChain privateKey)
    (hused : ∀ path, used' path ↔ used path) :
    v'.IdentityFilesEscape certificateChain privateKey certAnswer keyAnswer used' ↔
      v.IdentityFilesEscape certificateChain privateKey certAnswer keyAnswer used := by
  obtain rfl : used' = used := funext fun path => propext (hused path)
  rw [View.IdentityFilesEscape, View.IdentityFilesEscape, hcached]

end Filed

end Tls

end SkyWalking
