import Mathlib
import SkyWalking.Tls.Degrade

/-!
# What the TLS material comes to

One lemma for each function that asks the file system or `ssl`: it raises where a step escapes its
clauses, and says what it has found otherwise.
-/

namespace SkyWalking

namespace Tls

variable {α : Type} {pem : Pem} {config : Config} {caught : Exn → Bool}

theorem tryExcept_caught {exn : Exn} (h : caught exn = true) (handler : Exn → Try α) :
    tryExcept (.error exn) caught handler = handler exn := if_pos h

theorem tryExcept_past {exn : Exn} (h : caught exn = false) (handler : Exn → Try α) :
    tryExcept (.error exn) caught handler = .error exn := if_neg (by simp [h])

/-- A `try` statement goes on with what its body gives, with the handler, or with what it lets past. -/
theorem tryExcept_rule {β : Type} {P : Try β → Prop} {outcome : Try α} {f : α → β}
    {handler : Exn → Try β} (hok : ∀ value, outcome = .ok value → P (.ok (f value)))
    (hcaught : ∀ exn, outcome = .error exn → caught exn = true → P (handler exn))
    (hpast : ∀ exn, outcome = .error exn → caught exn = false → P (.error exn)) :
    P (tryExcept (outcome.map f) caught handler) := by
  cases outcome with
  | ok value => exact hok value rfl
  | error exn =>
      change P (tryExcept (.error exn) caught handler)
      cases hexn : caught exn with
      | true =>
          rw [tryExcept_caught hexn]
          exact hcaught exn rfl hexn
      | false =>
          rw [tryExcept_past hexn]
          exact hpast exn rfl hexn

theorem bind_eq_ok {β : Type} {body : Try α} {next : α → Try β} {result : β}
    (h : body >>= next = .ok result) : ∃ value, body = .ok value ∧ next value = .ok result := by
  cases body with
  | ok value => exact ⟨value, rfl, h⟩
  | error exn => cases h

theorem not_past_of_ok {value : α} {outcome : Try α} (h : outcome = .ok value) : ¬ Past caught outcome := by
  rintro ⟨exn, herror, -⟩
  rw [h] at herror
  cases herror

theorem not_past_of_caught {exn : Exn} {outcome : Try α} (h : outcome = .error exn)
    (hcaught : caught exn = true) : ¬ Past caught outcome := by
  rintro ⟨exn', herror, hpast⟩
  rw [h] at herror
  obtain rfl := Except.error.inj herror
  rw [hcaught] at hpast
  cases hpast

theorem not_succeeds_of_error {exn : Exn} {outcome : Try α} (h : outcome = .error exn) :
    ¬ Succeeds outcome := by
  rintro ⟨value, hok⟩
  rw [h] at hok
  cases hok

/-- What `ssl_file_path` comes to. -/
inductive Looked (value : String) (lookup : Try (Option String)) : Try (Option String) → Prop where
  | escaped (exn : Exn) : LookupEscapes value lookup → exn.isPathError = false →
      Looked value lookup (.error exn)
  | found (path : String) : ¬ LookupEscapes value lookup → Finds value lookup →
      Looked value lookup (.ok (some path))
  | missing : ¬ LookupEscapes value lookup → ¬ Finds value lookup → Looked value lookup (.ok none)

theorem sslFilePath_looked (value : String) (lookup : Try (Option String)) :
    Looked value lookup (sslFilePath value lookup) := by
  unfold sslFilePath
  by_cases hempty : configuredPath value = []
  · rw [if_pos (List.isEmpty_iff.mpr hempty)]
    exact .missing (fun h => h.1 hempty) fun h => h.1 hempty
  · rw [if_neg fun h => hempty (List.isEmpty_iff.mp h)]
    cases lookup with
    | ok path =>
        have hnot : ¬ LookupEscapes value (.ok path) := fun h => not_past_of_ok rfl h.2
        cases path with
        | none =>
            refine .missing hnot ?_
            rintro ⟨-, path, hpath⟩
            cases hpath
        | some path => exact .found path hnot ⟨hempty, path, rfl⟩
    | error exn =>
        cases hcaught : exn.isPathError with
        | true =>
            rw [tryExcept_caught hcaught]
            refine .missing (fun h => not_past_of_caught rfl hcaught h.2) ?_
            rintro ⟨-, path, hpath⟩
            cases hpath
        | false =>
            rw [tryExcept_past hcaught]
            exact .escaped exn ⟨hempty, exn, rfl, hcaught⟩ hcaught

/-- What `_mtls_material` comes to with a usable CA. -/
inductive Identified (pem : Pem) (config : Config) (answers : IdentityAnswers) :
    Try (Option (Bytes × Bytes)) → Prop where
  | escaped (exn : Exn) : answers.Escapes pem config → Identified pem config answers (.error exn)
  | loaded (identity : Bytes × Bytes) : ¬ answers.Escapes pem config → answers.Found config →
      readIdentity pem answers = .ok identity → Identified pem config answers (.ok (some identity))
  | missing : ¬ answers.Escapes pem config →
      ¬ (answers.Found config ∧ Succeeds (readIdentity pem answers)) →
      Identified pem config answers (.ok none)

theorem mtlsMaterial_identified (pem : Pem) (config : Config) (answers : IdentityAnswers) :
    Identified pem config answers (mtlsMaterial pem config true answers) := by
  unfold mtlsMaterial
  dsimp only
  rw [if_neg (by simp)]
  by_cases hunset : configuredPath config.agentSslCertChainPath = [] ∨
      configuredPath config.agentSslKeyPath = []
  · have hnone : Identified pem config answers (.ok none) := by
      refine .missing (fun h => ?_) fun h => ?_
      · exact hunset.elim h.1 h.2.1
      · exact hunset.elim h.1.1.1 h.1.2.1
    split
    · exact hnone
    · rw [if_pos (by simpa using hunset)]
      exact hnone
  · obtain ⟨hcert, hkey⟩ := not_or.mp hunset
    have hcert' : (configuredPath config.agentSslCertChainPath).isEmpty = false := by simpa using hcert
    have hkey' : (configuredPath config.agentSslKeyPath).isEmpty = false := by simpa using hkey
    rw [if_neg (by simp [hcert', hkey']), if_neg (by simp [hcert', hkey'])]
    have hcertLooked := sslFilePath_looked config.agentSslCertChainPath answers.certPath
    generalize sslFilePath config.agentSslCertChainPath answers.certPath = certPath at hcertLooked ⊢
    have hkeyLooked := sslFilePath_looked config.agentSslKeyPath answers.keyPath
    generalize sslFilePath config.agentSslKeyPath answers.keyPath = keyPath at hkeyLooked ⊢
    cases hcertLooked with
    | escaped exn hescapes _ => exact .escaped exn ⟨hcert, hkey, .inl hescapes⟩
    | missing hnot hmissing =>
        cases hkeyLooked with
        | escaped exn hescapes _ => exact .escaped exn ⟨hcert, hkey, .inr (.inl hescapes)⟩
        | found path hnotKey hfound =>
            refine .missing ?_ fun h => hmissing h.1.1
            rintro ⟨-, -, h | h | h⟩
            exacts [hnot h, hnotKey h, hmissing h.1.1]
        | missing hnotKey hmissingKey =>
            refine .missing ?_ fun h => hmissing h.1.1
            rintro ⟨-, -, h | h | h⟩
            exacts [hnot h, hnotKey h, hmissing h.1.1]
    | found path hnot hfound =>
        cases hkeyLooked with
        | escaped exn hescapes _ => exact .escaped exn ⟨hcert, hkey, .inr (.inl hescapes)⟩
        | missing hnotKey hmissingKey =>
            refine .missing ?_ fun h => hmissingKey h.1.2
            rintro ⟨-, -, h | h | h⟩
            exacts [hnot h, hnotKey h, hmissingKey h.1.2]
        | found keyPath hnotKey hfoundKey =>
            have hboth : answers.Found config := ⟨hfound, hfoundKey⟩
            change Identified pem config answers
              (tryExcept ((readIdentity pem answers).map some) Exn.isFileError fun _ => .ok none)
            apply tryExcept_rule
            · intro identity hread
              refine .loaded identity ?_ hboth hread
              rintro ⟨-, -, h | h | h⟩
              exacts [hnot h, hnotKey h, not_past_of_ok hread h.2]
            · intro exn hread hcaught
              refine .missing ?_ fun h => not_succeeds_of_error hread h.2
              rintro ⟨-, -, h | h | h⟩
              exacts [hnot h, hnotKey h, not_past_of_caught hread hcaught h.2]
            · intro exn hread hpast
              exact .escaped exn ⟨hcert, hkey, .inr (.inr ⟨hboth, exn, hread, hpast⟩)⟩

/-- What `tls_pem_material` comes to. -/
inductive Loaded (pem : Pem) (config : Config) (answers : MaterialAnswers) :
    Try (Option Material) → Prop where
  | escaped (exn : Exn) : answers.Escapes pem config → Loaded pem config answers (.error exn)
  | plaintext : ¬ answers.Escapes pem config → config.agentForceTls = false →
      (∀ bytes, ¬ answers.CustomCa pem config bytes) → Loaded pem config answers (.ok none)
  | loaded (roots : Option Bytes) (identity : Option (Bytes × Bytes)) :
      ¬ answers.Escapes pem config → (∀ bytes, roots = some bytes ↔ answers.CustomCa pem config bytes) →
      (identity.isSome = true ↔ answers.HasIdentity pem config) →
      (∀ pair, identity = some pair → readIdentity pem answers.identity = .ok pair) →
      Loaded pem config answers (.ok (some (.of roots identity)))

/-- Without a usable CA there is no client identity. -/
theorem mtlsMaterial_false (pem : Pem) (config : Config) (answers : IdentityAnswers) :
    mtlsMaterial pem config false answers = .ok none := by
  unfold mtlsMaterial
  exact if_pos Bool.false_ne_true

/-- What loading the CA comes to, after its lookup. -/
inductive Rooted (pem : Pem) (config : Config) (answers : MaterialAnswers) :
    Try (Option Bytes) → Prop where
  | escaped (exn : Exn) : Finds config.agentSslTrustedCaPath answers.secondLookup →
      Past Exn.isFileError (loadTrustedCa pem answers.ca answers.caParse) →
      Rooted pem config answers (.error exn)
  | custom (bytes : Bytes) : answers.CustomCa pem config bytes →
      Rooted pem config answers (.ok (some bytes))
  | missing : ¬ (Finds config.agentSslTrustedCaPath answers.secondLookup ∧
        Past Exn.isFileError (loadTrustedCa pem answers.ca answers.caParse)) →
      (∀ bytes, ¬ answers.CustomCa pem config bytes) → Rooted pem config answers (.ok none)

theorem rootCertificates_rooted (pem : Pem) {answers : MaterialAnswers}
    (hfinds : Finds config.agentSslTrustedCaPath answers.secondLookup) (path : String) :
    Rooted pem config answers (rootCertificates pem (some path) answers) := by
  unfold rootCertificates
  apply tryExcept_rule
  · exact fun bytes hload => .custom bytes ⟨hfinds, hload⟩
  · intro exn hload hcaught
    refine .missing (fun h => not_past_of_caught hload hcaught h.2) fun bytes h => ?_
    exact not_succeeds_of_error hload ⟨bytes, h.2⟩
  · exact fun exn hload hpast => .escaped exn hfinds ⟨exn, hload, hpast⟩

/-- The end of `tls_pem_material`, for the root certificates. -/
def materialFor (pem : Pem) (config : Config) (answers : MaterialAnswers) (roots : Option Bytes) :
    Try (Option Material) :=
  if ¬ config.agentForceTls ∧ roots.isNone then .ok none
  else (mtlsMaterial pem config roots.isSome answers.identity).map fun identity => some (.of roots identity)

theorem tlsPemMaterial_eq (pem : Pem) (config : Config) (answers : MaterialAnswers) :
    tlsPemMaterial pem config answers =
      (sslFilePath config.agentSslTrustedCaPath answers.firstLookup).bind fun _ =>
        (sslFilePath config.agentSslTrustedCaPath answers.secondLookup).bind fun caPath =>
          (rootCertificates pem caPath answers).bind (materialFor pem config answers) := by
  unfold tlsPemMaterial collectorUsesTls
  cases sslFilePath config.agentSslTrustedCaPath answers.firstLookup with
  | error exn => rfl
  | ok first =>
      cases sslFilePath config.agentSslTrustedCaPath answers.secondLookup with
      | error exn => rfl
      | ok second =>
          cases rootCertificates pem second answers with
          | error exn => rfl
          | ok roots =>
              unfold materialFor
              simp only [Except.bind, bind, Except.map]
              split
              · rfl
              · cases mtlsMaterial pem config roots.isSome answers.identity with
                | error exn => rfl
                | ok identity => rfl

theorem materialFor_loaded {answers : MaterialAnswers} {roots : Option Bytes}
    (hnot : ¬ (LookupEscapes config.agentSslTrustedCaPath answers.firstLookup ∨
      LookupEscapes config.agentSslTrustedCaPath answers.secondLookup ∨
      Finds config.agentSslTrustedCaPath answers.secondLookup ∧
        Past Exn.isFileError (loadTrustedCa pem answers.ca answers.caParse)))
    (hroots : ∀ bytes, roots = some bytes ↔ answers.CustomCa pem config bytes) :
    Loaded pem config answers (materialFor pem config answers roots) := by
  unfold materialFor
  cases roots with
  | none =>
      have hnone : ∀ bytes, ¬ answers.CustomCa pem config bytes := by
        intro bytes h
        cases (hroots bytes).mpr h
      have hcalm : ¬ answers.Escapes pem config := by
        rintro (h | h | h | ⟨⟨bytes, h⟩, -⟩)
        · exact hnot (.inl h)
        · exact hnot (.inr (.inl h))
        · exact hnot (.inr (.inr h))
        · exact hnone bytes h
      by_cases hforce : config.agentForceTls = true
      · rw [if_neg (by simp [hforce])]
        change Loaded pem config answers ((mtlsMaterial pem config false answers.identity).map _)
        rw [mtlsMaterial_false]
        refine .loaded none none hcalm hroots ⟨(fun h => by cases h), fun h => ?_⟩ fun _ h => by cases h
        obtain ⟨⟨bytes, hcustom⟩, -⟩ := h
        exact absurd hcustom (hnone bytes)
      · rw [if_pos (by simp [hforce])]
        exact .plaintext hcalm (Bool.eq_false_of_not_eq_true hforce) hnone
  | some bytes =>
      have hcustom : answers.CustomCa pem config bytes := (hroots bytes).mp rfl
      have hescapes : answers.Escapes pem config ↔ answers.identity.Escapes pem config := by
        constructor
        · rintro (h | h | h | ⟨-, h⟩)
          · exact absurd (.inl h) hnot
          · exact absurd (.inr (.inl h)) hnot
          · exact absurd (.inr (.inr h)) hnot
          · exact h
        · exact fun h => .inr (.inr (.inr ⟨⟨bytes, hcustom⟩, h⟩))
      rw [if_neg (by simp)]
      change Loaded pem config answers ((mtlsMaterial pem config true answers.identity).map _)
      have hidentified := mtlsMaterial_identified pem config answers.identity
      generalize mtlsMaterial pem config true answers.identity = identity at hidentified ⊢
      cases hidentified with
      | escaped exn hraised => exact .escaped exn (hescapes.mpr hraised)
      | loaded identity hcalm hfound hreads =>
          refine .loaded _ _ (fun h => hcalm (hescapes.mp h)) hroots ⟨fun _ => ?_, fun _ => rfl⟩ ?_
          · exact ⟨⟨bytes, hcustom⟩, hfound, identity, hreads⟩
          · rintro pair ⟨⟩
            exact hreads
      | missing hcalm hmissing =>
          refine .loaded _ _ (fun h => hcalm (hescapes.mp h)) hroots
            ⟨(fun h => by cases h), fun h => ?_⟩ fun _ h => by cases h
          exact absurd h.2 hmissing

theorem tlsPemMaterial_loaded (pem : Pem) (config : Config) (answers : MaterialAnswers) :
    Loaded pem config answers (tlsPemMaterial pem config answers) := by
  rw [tlsPemMaterial_eq]
  have hfirst := sslFilePath_looked config.agentSslTrustedCaPath answers.firstLookup
  generalize sslFilePath config.agentSslTrustedCaPath answers.firstLookup = first at hfirst ⊢
  by_cases hescaped : LookupEscapes config.agentSslTrustedCaPath answers.firstLookup
  · cases hfirst with
    | escaped exn _ _ => exact .escaped exn (.inl hescaped)
    | found path hnot _ => exact absurd hescaped hnot
    | missing hnot _ => exact absurd hescaped hnot
  · have hok : ∃ path, first = .ok path := by
      cases hfirst with
      | escaped exn h _ => exact absurd h hescaped
      | found path _ _ => exact ⟨_, rfl⟩
      | missing _ _ => exact ⟨_, rfl⟩
    obtain ⟨path, rfl⟩ := hok
    change Loaded pem config answers ((sslFilePath _ _).bind _)
    have hsecond := sslFilePath_looked config.agentSslTrustedCaPath answers.secondLookup
    generalize sslFilePath config.agentSslTrustedCaPath answers.secondLookup = second at hsecond ⊢
    cases hsecond with
    | escaped exn h _ => exact .escaped exn (.inr (.inl h))
    | missing hnot hmissing =>
        refine materialFor_loaded (fun h => ?_) fun bytes => ⟨(fun h => by cases h), fun h => ?_⟩
        · obtain h | h | h := h
          exacts [hescaped h, hnot h, hmissing h.1]
        · exact absurd h.1 hmissing
    | found path hnot hfinds =>
        change Loaded pem config answers ((rootCertificates pem (some path) answers).bind _)
        have hrooted := rootCertificates_rooted pem hfinds path
        generalize rootCertificates pem (some path) answers = roots at hrooted ⊢
        cases hrooted with
        | escaped exn hfound hpast => exact .escaped exn (.inr (.inr (.inl ⟨hfound, hpast⟩)))
        | custom bytes hcustom =>
            refine materialFor_loaded (fun h => ?_) fun other => ⟨fun h => ?_, fun h => ?_⟩
            · obtain h | h | h := h
              exacts [hescaped h, hnot h, not_past_of_ok hcustom.2 h.2]
            · obtain rfl := Option.some.inj h
              exact hcustom
            · exact congrArg some (Except.ok.inj (hcustom.2.symm.trans h.2))
        | missing hcalm hnone =>
            refine materialFor_loaded (fun h => ?_) fun other => ⟨(fun h => by cases h), fun h => ?_⟩
            · obtain h | h | h := h
              exacts [hescaped h, hnot h, hcalm h]
            · exact absurd h (hnone other)

/-- With `agent_force_tls` the shared material is never that of plaintext. -/
theorem safeTlsPemMaterial_isSome (hforce : config.agentForceTls = true) (answers : MaterialAnswers) :
    (safeTlsPemMaterial pem config answers).isSome = true := by
  unfold safeTlsPemMaterial
  have hloaded := tlsPemMaterial_loaded pem config answers
  generalize tlsPemMaterial pem config answers = material at hloaded ⊢
  cases hloaded with
  | escaped exn _ =>
      simp only [if_pos hforce]
      rfl
  | plaintext _ hplain _ =>
      rw [hforce] at hplain
      cases hplain
  | loaded roots identity _ _ _ => rfl

end Tls

end SkyWalking
