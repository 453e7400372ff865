import Mathlib
import SkyWalking.Proof.MaterialLemmas
import SkyWalking.Proof.TempAnswerLemmas

/-!
# Forced TLS never falls back to plaintext

Three of the transports are encrypted as long as nothing raises past its clauses. gRPC has a second way
out: with a client identity, it does not come to the process trust store.
-/

namespace SkyWalking

namespace Tls

variable {pem : Pem} {config : Config} {v : View}

/-- The retry without the client identity is the last one. -/
theorem credentialsFor_iff {material : Material} {answers : GrpcAnswers}
    (hforce : config.agentForceTls = true) (hsystem : answers.system = .ok ()) :
    (∃ credentials, credentialsFor config material answers = .ok (some credentials)) ↔
      (material.privateKey.isSome = true ∨ material.certificateChain.isSome = true →
        Succeeds answers.whole ∨ Succeeds answers.oneWay) := by
  unfold credentialsFor sslChannelCredentials
  cases hwhole : answers.whole with
  | ok value => exact ⟨fun _ _ => .inl ⟨value, rfl⟩, fun _ => ⟨_, rfl⟩⟩
  | error exn =>
      have hnot : ¬ Succeeds (Except.error exn : Try Unit) := not_succeeds_of_error rfl
      change (∃ credentials, ite _ _ _ = _) ↔ _
      by_cases hidentity : material.privateKey.isSome = true ∨ material.certificateChain.isSome = true
      · rw [if_pos hidentity]
        cases honeWay : answers.oneWay with
        | ok value => exact ⟨fun _ _ => .inr ⟨value, rfl⟩, fun _ => ⟨_, rfl⟩⟩
        | error raised =>
            constructor
            · rintro ⟨credentials, hnone⟩
              cases hnone
            · intro hretry
              exact absurd (hretry hidentity) (not_or.mpr ⟨hnot, not_succeeds_of_error rfl⟩)
      · rw [if_neg hidentity, if_pos hforce, hsystem]
        exact ⟨fun _ h => absurd h hidentity, fun _ => ⟨_, rfl⟩⟩

theorem Material.of_identity (roots : Option Bytes) (identity : Option (Bytes × Bytes)) :
    ((Material.of roots identity).privateKey.isSome = true ∨
      (Material.of roots identity).certificateChain.isSome = true) ↔ identity.isSome = true := by
  cases identity with
  | none => simp [Material.of]
  | some pair => simp [Material.of]

theorem grpcSslCredentials_iff {answers : GrpcAnswers} (hforce : config.agentForceTls = true)
    (hsystem : answers.system = .ok ()) :
    (∃ credentials, grpcSslCredentials pem config answers = .ok (some credentials)) ↔
      ¬ answers.material.Escapes pem config ∧ (answers.material.HasIdentity pem config →
        Succeeds answers.whole ∨ Succeeds answers.oneWay) := by
  unfold grpcSslCredentials
  have hloaded := tlsPemMaterial_loaded pem config answers.material
  generalize tlsPemMaterial pem config answers.material = material at hloaded ⊢
  cases hloaded with
  | escaped exn hescapes =>
      constructor
      · rintro ⟨credentials, hraised⟩
        cases hraised
      · exact fun h => absurd hescapes h.1
  | plaintext _ hplain _ =>
      rw [hforce] at hplain
      cases hplain
  | loaded roots identity hcalm _ hidentity =>
      dsimp only
      rw [credentialsFor_iff hforce hsystem, Material.of_identity, hidentity]
      exact (and_iff_right hcalm).symm

/-- What the material is under `agent_force_tls`. -/
theorem MaterialSource.get_forced {source : MaterialSource} (hforce : config.agentForceTls = true)
    (hshared : source.Shared pem config) :
    (∃ exn, source.get pem config = .error exn) ∨
      ∃ material, source.get pem config = .ok (some material) := by
  unfold MaterialSource.get
  obtain hunset | ⟨answers, hshared⟩ := hshared
  · rw [hunset]
    have hloaded := tlsPemMaterial_loaded pem config source.answers
    dsimp only
    generalize tlsPemMaterial pem config source.answers = material at hloaded ⊢
    cases hloaded with
    | escaped exn _ => exact .inl ⟨exn, rfl⟩
    | plaintext _ hplain _ =>
        rw [hforce] at hplain
        cases hplain
    | loaded roots identity _ _ _ => exact .inr ⟨_, rfl⟩
  · rw [hshared]
    have hsome : (safeTlsPemMaterial pem config answers).isSome = true :=
      safeTlsPemMaterial_isSome hforce answers
    obtain ⟨material, hmaterial⟩ := Option.isSome_iff_exists.mp hsome
    exact .inr ⟨material, congrArg Except.ok hmaterial⟩

theorem MaterialSource.get_error_iff {source : MaterialSource} :
    (∃ exn, source.get pem config = .error exn) ↔
      source.argument = none ∧ source.answers.Escapes pem config := by
  unfold MaterialSource.get
  cases source.argument with
  | some material => simp
  | none =>
      have hloaded := tlsPemMaterial_loaded pem config source.answers
      dsimp only
      generalize tlsPemMaterial pem config source.answers = material at hloaded ⊢
      cases hloaded with
      | escaped exn hescapes => exact ⟨fun _ => ⟨rfl, hescapes⟩, fun _ => ⟨exn, rfl⟩⟩
      | plaintext hcalm _ _ => exact ⟨(fun ⟨_, h⟩ => by cases h), fun h => absurd h.2 hcalm⟩
      | loaded roots identity hcalm _ _ =>
          exact ⟨(fun ⟨_, h⟩ => by cases h), fun h => absurd h.2 hcalm⟩

theorem collectorHttpScheme_forced {source : MaterialSource} (hforce : config.agentForceTls = true)
    (hshared : source.Shared pem config) : collectorHttpScheme pem config source = "https://" := by
  unfold collectorHttpScheme
  obtain ⟨exn, hget⟩ | ⟨material, hget⟩ := MaterialSource.get_forced hforce hshared
  · rw [hget]
    exact if_pos hforce
  · rw [hget]
    exact if_pos rfl

theorem requestsVerify_enabled (config : Config) (roots : Option Bytes) (answers : RequestsAnswers)
    (v : View) (verify : Verify) (h : (requestsVerify config roots answers v).1 = .ok verify) :
    verify ≠ .disabled := by
  unfold requestsVerify at h
  split at h
  · obtain rfl := Except.ok.inj h
    simp
  · split at h
    · obtain rfl := Except.ok.inj h
      simp
    · split at h
      · obtain rfl := Except.ok.inj h
        simp
      · obtain rfl := Except.ok.inj h
        simp
      · cases h
    · cases h

theorem settingsFor_enabled (config : Config) (material : Material) (answers : RequestsAnswers)
    (v : View) (settings : Verify × Option (String × String))
    (h : (settingsFor config material answers v).1 = .ok settings) : settings.1 ≠ .disabled := by
  have hverify := requestsVerify_enabled config material.rootCertificates answers v
  unfold settingsFor at h
  generalize requestsVerify config material.rootCertificates answers v = result at hverify h
  obtain ⟨outcome, v'⟩ := result
  cases outcome with
  | error exn => cases h
  | ok verify =>
      dsimp only at h
      split at h
      · split at h
        · cases h
        · obtain rfl := Except.ok.inj h
          exact hverify verify rfl
      · obtain rfl := Except.ok.inj h
        exact hverify verify rfl

/-- There is no way to turn the verification off. -/
theorem requestsTlsSettings_enabled (pem : Pem) (config : Config) (source : MaterialSource)
    (answers : RequestsAnswers) (v : View) (settings : Verify × Option (String × String))
    (h : (requestsTlsSettings pem config source answers v).1 = .ok settings) :
    settings.1 ≠ .disabled := by
  unfold requestsTlsSettings at h
  split at h
  · cases h
  · obtain rfl := Except.ok.inj h
    simp
  · exact settingsFor_enabled config _ answers v settings h

theorem fallBackSession_enabled {answers : SessionAnswers} {session session' : Session}
    (hsession : session.verify ≠ .disabled)
    (h : fallBackSession config answers session = .ok session') : session'.verify ≠ .disabled := by
  unfold fallBackSession at h
  obtain ⟨lookup, -, h⟩ := bind_eq_ok h
  split at h
  · obtain ⟨caVerify, -, h⟩ := bind_eq_ok h
    obtain rfl := Except.ok.inj h
    cases caVerify with
    | none => simp
    | some path => simp
  · obtain rfl := Except.ok.inj h
    exact hsession

theorem configureRequestsSession_enabled (pem : Pem) (config : Config) (source : MaterialSource)
    (answers : SessionAnswers) {session : Session} (hsession : session.verify ≠ .disabled) (v : View) :
    (configureRequestsSession pem config source answers session v).1.verify ≠ .disabled := by
  unfold configureRequestsSession
  have hsettings := requestsTlsSettings_enabled pem config source answers.settings v
  generalize requestsTlsSettings pem config source answers.settings v = result at hsettings ⊢
  obtain ⟨outcome, v'⟩ := result
  cases outcome with
  | ok settings => exact hsettings settings rfl
  | error exn =>
      dsimp only
      cases hfallback : fallBackSession config answers session with
      | ok session' => exact fallBackSession_enabled hsession hfallback
      | error raised => exact hsession

/-- What `_configured_ca_path_for_verify` comes to. -/
inductive Configured (config : Config) (answers : ConfiguredPathAnswers) :
    Try (Option String) → Prop where
  | escaped (exn : Exn) : answers.Escapes config → Configured config answers (.error exn)
  | known (path : String) : ¬ answers.Escapes config → answers.Known config →
      answers.absolute = .ok path → Configured config answers (.ok (some path))
  | unknown : ¬ answers.Escapes config → ¬ answers.Known config → Configured config answers (.ok none)

theorem configuredCaPathForVerify_configured (config : Config) (answers : ConfiguredPathAnswers) :
    Configured config answers (configuredCaPathForVerify config answers) := by
  unfold configuredCaPathForVerify
  by_cases hempty : configuredPath config.agentSslTrustedCaPath = []
  · rw [if_pos (List.isEmpty_iff.mpr hempty)]
    refine .unknown ?_ fun h => h.1.1 hempty
    rintro (h | h)
    exacts [h.1 hempty, h.1.1 hempty]
  · rw [if_neg fun h => hempty (List.isEmpty_iff.mp h)]
    have hlooked := sslFilePath_looked config.agentSslTrustedCaPath answers.lookup
    generalize sslFilePath config.agentSslTrustedCaPath answers.lookup = looked at hlooked ⊢
    cases hlooked with
    | escaped exn h _ => exact .escaped exn (.inl h)
    | missing hnot hmissing =>
        refine .unknown ?_ fun h => hmissing h.1
        rintro (h | h)
        exacts [hnot h, hmissing h.1]
    | found path hnot hfinds =>
        change Configured config answers (tryExcept (answers.absolute.map some) _ _)
        apply tryExcept_rule
        · intro path habsolute
          refine .known path ?_ ⟨hfinds, path, habsolute⟩ habsolute
          rintro (h | h)
          exacts [hnot h, not_past_of_ok habsolute h.2]
        · intro exn habsolute hcaught
          refine .unknown ?_ fun h => not_succeeds_of_error habsolute h.2
          rintro (h | h)
          exacts [hnot h, not_past_of_caught habsolute hcaught h.2]
        · exact fun exn habsolute hpast => .escaped exn (.inr ⟨hfinds, exn, habsolute, hpast⟩)

/-- What loading the CA from the configured path comes to. -/
inductive ViaPath (config : Config) (answers : ContextAnswers) : Try (Except Exn SslContext) → Prop where
  | escaped (exn : Exn) : answers.PathEscapes config → ViaPath config answers (.error exn)
  | loaded (path : String) : ¬ answers.PathEscapes config → answers.caPath.Known config →
      Succeeds answers.pathContext → answers.caPath.absolute = .ok path →
      ViaPath config answers (.ok (.ok ⟨.cafile path, none⟩))
  | reported (exn : Exn) : ¬ answers.PathEscapes config →
      ¬ (answers.caPath.Known config ∧ Succeeds answers.pathContext) →
      ViaPath config answers (.ok (.error exn))

theorem createDefaultContext_map {β : Type} (outcome : Try Unit) (anchors : Anchors)
    (f : SslContext → β) :
    (createDefaultContext outcome anchors).map f = outcome.map fun _ => f ⟨anchors, none⟩ := by
  cases outcome with
  | ok value => rfl
  | error exn => rfl

theorem loadCaViaPath_viaPath (config : Config) (answers : ContextAnswers) (tempExc : Exn) :
    ViaPath config answers (loadCaViaPath config answers tempExc) := by
  unfold loadCaViaPath
  have hconfigured := configuredCaPathForVerify_configured config answers.caPath
  generalize configuredCaPathForVerify config answers.caPath = configured at hconfigured ⊢
  cases hconfigured with
  | escaped exn h => exact .escaped exn (.inl h)
  | unknown hnot hunknown =>
      refine .reported tempExc ?_ fun h => hunknown h.1
      rintro (h | h)
      exacts [hnot h, hunknown h.1]
  | known path hnot hknown habsolute =>
      change ViaPath config answers
        (tryExcept ((createDefaultContext answers.pathContext (.cafile path)).map .ok) _ _)
      rw [createDefaultContext_map]
      apply tryExcept_rule
      · intro value hcontext
        refine .loaded path ?_ hknown ⟨value, hcontext⟩ habsolute
        rintro (h | h)
        exacts [hnot h, not_past_of_ok hcontext h.2]
      · intro exn hcontext hcaught
        refine .reported exn ?_ fun h => not_succeeds_of_error hcontext h.2
        rintro (h | h)
        exacts [hnot h, not_past_of_caught hcontext hcaught h.2]
      · exact fun exn hcontext hpast => .escaped exn (.inr ⟨hknown, exn, hcontext, hpast⟩)

/-- Where a context that was built through a file has its CA from. -/
def FromFile (roots : Bytes) (answers : ContextAnswers) (v : View) (path : String) : Prop :=
  (v.caVerifyTempFile roots answers.snapshot).1 = .ok path ∨ answers.caPath.absolute = .ok path

/-- What `_load_ca_via_cafile` comes to. -/
inductive ViaFile (config : Config) (roots : Bytes) (answers : ContextAnswers) (v : View) :
    Try (Except Exn SslContext) → Prop where
  | escaped (exn : Exn) : answers.CafileEscapes config roots v → ViaFile config roots answers v (.error exn)
  | loaded (path : String) : ¬ answers.CafileEscapes config roots v →
      answers.CafileLoads config roots v → FromFile roots answers v path →
      ViaFile config roots answers v (.ok (.ok ⟨.cafile path, none⟩))
  | reported (exn : Exn) : ¬ answers.CafileEscapes config roots v →
      ¬ answers.CafileLoads config roots v → ViaFile config roots answers v (.ok (.error exn))

/-- The snapshot fails with an exception, which decides whether the configured path is tried. -/
theorem viaFile_of_failed {roots : Bytes} {answers : ContextAnswers} {exn : Exn}
    (hfailed : answers.snapshotOutcome roots v = .error exn) :
    ViaFile config roots answers v
      (tryExcept (.error exn) Exn.isOsError (loadCaViaPath config answers)) := by
  cases hcaught : exn.isOsError with
  | false =>
      rw [tryExcept_past hcaught]
      exact .escaped exn (.inl ⟨exn, hfailed, hcaught⟩)
  | true =>
      rw [tryExcept_caught hcaught]
      have hwithin : Within Exn.isOsError (answers.snapshotOutcome roots v) := ⟨exn, hfailed, hcaught⟩
      have hpast := not_past_of_caught hfailed hcaught
      have hvia := loadCaViaPath_viaPath config answers exn
      generalize loadCaViaPath config answers exn = result at hvia ⊢
      cases hvia with
      | escaped raised h => exact .escaped raised (.inr ⟨hwithin, h⟩)
      | loaded path hnot hknown hloads habsolute =>
          refine .loaded path ?_ (.inr ⟨hwithin, hknown, hloads⟩) (.inr habsolute)
          rintro (h | h)
          exacts [hpast h, hnot h.2]
      | reported raised hnot hunknown =>
          refine .reported raised ?_ ?_
          · rintro (h | h)
            exacts [hpast h, hnot h.2]
          · rintro (h | h)
            exacts [not_succeeds_of_error hfailed h, hunknown h.2]

theorem loadCaViaCafile_viaFile (config : Config) (roots : Bytes) (answers : ContextAnswers) (v : View) :
    ViaFile config roots answers v (loadCaViaCafile config roots answers v).1 ∧
      (loadCaViaCafile config roots answers v).2 = (v.caVerifyTempFile roots answers.snapshot).2 := by
  have houtcome : answers.snapshotOutcome roots v =
      (v.caVerifyTempFile roots answers.snapshot).1.bind fun _ => answers.snapshotContext := rfl
  have hfrom : ∀ path, (v.caVerifyTempFile roots answers.snapshot).1 = .ok path →
      FromFile roots answers v path := fun path h => .inl h
  unfold loadCaViaCafile
  generalize v.caVerifyTempFile roots answers.snapshot = snapshot at houtcome hfrom ⊢
  obtain ⟨outcome, v'⟩ := snapshot
  cases outcome with
  | error exn => exact ⟨viaFile_of_failed houtcome, rfl⟩
  | ok path =>
      refine ⟨?_, rfl⟩
      change answers.snapshotOutcome roots v = answers.snapshotContext at houtcome
      dsimp only
      cases hcontext : answers.snapshotContext with
      | error exn => exact viaFile_of_failed (houtcome.trans hcontext)
      | ok value =>
          have hok := houtcome.trans hcontext
          refine .loaded path ?_ (.inl ⟨value, hok⟩) (hfrom path rfl)
          rintro (h | h)
          · exact not_past_of_ok hok h
          · obtain ⟨⟨exn, herror, -⟩, -⟩ := h
            rw [hok] at herror
            cases herror

/-- What a context for the custom CA trusts, and what is on the disk then. -/
def Trusts (roots : Bytes) (answers : ContextAnswers) (v : View) (anchors : Anchors) (v' : View) : Prop :=
  anchors = .cadata roots ∨
    ∃ path, anchors = .cafile path ∧ FromFile roots answers v path ∧
      v' = (v.caVerifyTempFile roots answers.snapshot).2

/-- What loading the custom CA comes to. -/
inductive CustomContext (config : Config) (roots : Bytes) (answers : ContextAnswers) (v : View) :
    Try (Except Exn SslContext) × View → Prop where
  | escaped (exn : Exn) (v' : View) : answers.CaEscapes config roots v →
      CustomContext config roots answers v (.error exn, v')
  | loaded (anchors : Anchors) (v' : View) : ¬ answers.CaEscapes config roots v →
      answers.CaLoads config roots v → Trusts roots answers v anchors v' →
      CustomContext config roots answers v (.ok (.ok ⟨anchors, none⟩), v')
  | reported (exn : Exn) (v' : View) : ¬ answers.CaEscapes config roots v →
      ¬ answers.CaLoads config roots v → CustomContext config roots answers v (.ok (.error exn), v')

theorem customContext_of_file {roots : Bytes} {answers : ContextAnswers}
    (hneeds : answers.NeedsFile roots) (hnot : ¬ (caPemHasTrustedCertificate roots = false ∧
      (Succeeds (cadataOutcome roots answers) ∨
        Past Exn.isFileError (cadataOutcome roots answers)))) :
    CustomContext config roots answers v (loadCaViaCafile config roots answers v) := by
  obtain ⟨hvia, hview⟩ := loadCaViaCafile_viaFile config roots answers v
  generalize loadCaViaCafile config roots answers v = result at hvia hview ⊢
  obtain ⟨outcome, v'⟩ := result
  cases hvia with
  | escaped exn h => exact .escaped exn v' (.inr ⟨hneeds, h⟩)
  | loaded path hcalm hloads hfrom =>
      refine .loaded _ v' ?_ (.inr ⟨hneeds, hloads⟩) (.inr ⟨path, rfl, hfrom, hview⟩)
      rintro (h | h)
      exacts [hnot ⟨h.1, .inr h.2⟩, hcalm h.2]
  | reported exn hcalm hloads =>
      refine .reported exn v' ?_ ?_
      · rintro (h | h)
        exacts [hnot ⟨h.1, .inr h.2⟩, hcalm h.2]
      · rintro (h | h)
        exacts [hnot ⟨h.1, .inl h.2⟩, hloads h.2]

theorem loadCa_customContext (config : Config) (roots : Bytes) (answers : ContextAnswers) (v : View) :
    CustomContext config roots answers v (loadCa config roots answers v) := by
  unfold loadCa
  by_cases htrusted : caPemHasTrustedCertificate roots = true
  · rw [if_pos htrusted]
    refine customContext_of_file (.inl htrusted) ?_
    rintro ⟨hplain, -⟩
    rw [htrusted] at hplain
    cases hplain
  · rw [if_neg htrusted]
    have hplain := Bool.eq_false_of_not_eq_true htrusted
    cases hcadata : cadataOutcome roots answers with
    | ok value =>
        refine .loaded (.cadata roots) v ?_ (.inl ⟨hplain, value, hcadata⟩) (.inl rfl)
        rintro (h | ⟨hneeds, -⟩)
        · exact not_past_of_ok hcadata h.2
        · obtain h | ⟨exn, herror, -⟩ := hneeds
          · exact htrusted h
          · rw [hcadata] at herror
            cases herror
    | error exn =>
        change CustomContext config roots answers v (ite _ _ _)
        by_cases hcaught : exn.isFileError = true
        · rw [if_pos hcaught]
          refine customContext_of_file (.inr ⟨exn, hcadata, hcaught⟩) ?_
          rintro ⟨-, h | h⟩
          exacts [not_succeeds_of_error hcadata h, not_past_of_caught hcadata hcaught h]
        · rw [if_neg hcaught]
          exact .escaped exn v (.inl ⟨hplain, exn, hcadata, Bool.eq_false_of_not_eq_true hcaught⟩)

/-- The client identity is loaded into a context, or left out; the context is there unless something
raises. -/
theorem loadIdentity_iff {certificateChain privateKey : Bytes} {answers : ContextAnswers}
    {ctx : SslContext} {v : View} :
    (∃ ctx', (loadIdentity certificateChain privateKey answers ctx v).1 = .ok (some ctx')) ↔
      ¬ (Past (fun _ => false)
          (v.mtlsCertKeyFiles certificateChain privateKey answers.certTemp answers.keyTemp).1 ∨
        (∃ pair,
          (v.mtlsCertKeyFiles certificateChain privateKey answers.certTemp answers.keyTemp).1 =
            .ok (some pair)) ∧ Past Exn.isOsError answers.loadCertChain) := by
  unfold loadIdentity
  generalize v.mtlsCertKeyFiles certificateChain privateKey answers.certTemp answers.keyTemp = result
  obtain ⟨outcome, v'⟩ := result
  cases outcome with
  | error exn =>
      constructor
      · rintro ⟨ctx', h⟩
        cases h
      · exact fun h => absurd (.inl ⟨exn, rfl, rfl⟩) h
  | ok pair =>
      have hnot : ¬ Past (fun _ => false) (Except.ok pair : Try (Option (String × String))) :=
        not_past_of_ok rfl
      cases pair with
      | none =>
          refine ⟨fun _ h => ?_, fun _ => ⟨ctx, rfl⟩⟩
          obtain h | ⟨⟨pair, h⟩, -⟩ := h
          · exact hnot h
          · cases h
      | some pair =>
          dsimp only
          cases hload : answers.loadCertChain with
          | ok value =>
              refine ⟨fun _ h => ?_, fun _ => ⟨_, rfl⟩⟩
              obtain h | ⟨-, h⟩ := h
              exacts [hnot h, not_past_of_ok rfl h]
          | error exn =>
              cases hcaught : exn.isOsError with
              | true =>
                  refine ⟨fun _ h => ?_, fun _ => ⟨ctx, tryExcept_caught hcaught _⟩⟩
                  obtain h | ⟨-, h⟩ := h
                  exacts [hnot h, not_past_of_caught rfl hcaught h]
              | false =>
                  constructor
                  · rintro ⟨ctx', h⟩
                    rw [show Except.map (fun _ => some _) (Except.error exn : Try Unit) =
                      (.error exn : Try (Option SslContext)) from rfl, tryExcept_past hcaught] at h
                    cases h
                  · exact fun h => absurd (.inr ⟨⟨pair, rfl⟩, exn, rfl, hcaught⟩) h

theorem attachIdentity_iff {material : Material} {answers : ContextAnswers} {ctx : SslContext}
    {v : View} :
    (∃ ctx', (attachIdentity material answers ctx v).1 = .ok (some ctx')) ↔
      ¬ answers.IdentityEscapes material v.Used v := by
  obtain ⟨roots, privateKey, certificateChain⟩ := material
  cases privateKey with
  | none =>
      refine ⟨fun _ => ?_, fun _ => ⟨ctx, rfl⟩⟩
      rintro ⟨_, key, -, hkey, -⟩
      cases hkey
  | some privateKey =>
      cases certificateChain with
      | none =>
          refine ⟨fun _ => ?_, fun _ => ⟨ctx, rfl⟩⟩
          rintro ⟨chain, _, hchain, -⟩
          cases hchain
      | some certificateChain =>
          change (∃ ctx', (loadIdentity certificateChain privateKey answers ctx v).1 = _) ↔ _
          rw [loadIdentity_iff, not_iff_not, mtlsCertKeyFiles_past_iff, mtlsCertKeyFiles_pair_iff]
          constructor
          · exact fun h => ⟨certificateChain, privateKey, rfl, rfl, h⟩
          · rintro ⟨chain, key, hchain, hkey, h⟩
            obtain rfl := Option.some.inj hchain
            obtain rfl := Option.some.inj hkey
            exact h

/-- The state after the CA was loaded: at most a snapshot was written. -/
theorem loadCa_view (config : Config) (roots : Bytes) (answers : ContextAnswers) (v : View) :
    answers.NeedsFile roots ∧
        (loadCa config roots answers v).2 = (v.caVerifyTempFile roots answers.snapshot).2 ∨
      ¬ answers.NeedsFile roots ∧ (loadCa config roots answers v).2 = v := by
  obtain ⟨-, hview⟩ := loadCaViaCafile_viaFile config roots answers v
  unfold loadCa
  by_cases htrusted : caPemHasTrustedCertificate roots = true
  · rw [if_pos htrusted]
    exact .inl ⟨.inl htrusted, hview⟩
  · rw [if_neg htrusted]
    cases hcadata : cadataOutcome roots answers with
    | ok value =>
        refine .inr ⟨?_, rfl⟩
        rintro (h | ⟨exn, herror, -⟩)
        · exact htrusted h
        · rw [hcadata] at herror
          cases herror
    | error exn =>
        change answers.NeedsFile roots ∧ (ite _ _ _ : _ × View).2 = _ ∨
          ¬ answers.NeedsFile roots ∧ (ite _ _ _ : _ × View).2 = v
        by_cases hcaught : exn.isFileError = true
        · rw [if_pos hcaught]
          exact .inl ⟨.inr ⟨exn, hcadata, hcaught⟩, hview⟩
        · rw [if_neg hcaught]
          refine .inr ⟨?_, rfl⟩
          rintro (h | ⟨raised, herror, hraised⟩)
          · exact htrusted h
          · obtain rfl := Except.error.inj (hcadata.symm.trans herror)
            exact hcaught hraised

theorem loadCa_used (config : Config) (roots : Bytes) (answers : ContextAnswers) (v : View)
    (path : String) :
    (loadCa config roots answers v).2.Used path ↔ answers.UsedWithCa roots v path := by
  unfold ContextAnswers.UsedWithCa
  obtain ⟨hneeds, hview⟩ | ⟨hnot, hview⟩ := loadCa_view config roots answers v
  · rw [hview, caVerifyTempFile_used]
    exact or_congr_right (and_iff_right hneeds).symm
  · rw [hview]
    exact (or_iff_left fun h => hnot h.1).symm

theorem loadCa_mtlsCached (config : Config) (roots : Bytes) (answers : ContextAnswers) (v : View)
    (certificateChain privateKey : Bytes) :
    (loadCa config roots answers v).2.mtlsCached certificateChain privateKey =
      v.mtlsCached certificateChain privateKey := by
  obtain ⟨-, hview⟩ | ⟨-, hview⟩ := loadCa_view config roots answers v
  · rw [hview, caVerifyTempFile_mtlsCached]
  · rw [hview]

/-- The client identity after the CA. -/
theorem loadCa_identityEscapes {material : Material} {answers : ContextAnswers} {roots : Bytes} :
    answers.IdentityEscapes material (loadCa config roots answers v).2.Used
        (loadCa config roots answers v).2 ↔
      answers.IdentityEscapes material (answers.UsedWithCa roots v) v := by
  have hcached := loadCa_mtlsCached config roots answers v
  have hused := loadCa_used config roots answers v
  unfold ContextAnswers.IdentityEscapes
  refine exists_congr fun certificateChain => exists_congr fun privateKey =>
    and_congr_right fun _ => and_congr_right fun _ => ?_
  rw [View.IdentityFiles.congr (hcached certificateChain privateKey) hused,
    View.IdentityFilesEscape.congr (hcached certificateChain privateKey) hused]

theorem systemTrustContext_iff {answers : ContextAnswers} :
    (∃ ctx, systemTrustContext answers = .ok (some ctx)) ↔ Succeeds answers.system := by
  unfold systemTrustContext createDefaultContext
  constructor
  · rintro ⟨ctx, hctx⟩
    cases hsystem : answers.system with
    | ok value => exact ⟨value, rfl⟩
    | error exn =>
        rw [hsystem] at hctx
        cases hcaught : exn.isOsError with
        | true =>
            rw [Except.map, Except.map, tryExcept_caught hcaught] at hctx
            cases hctx
        | false =>
            rw [Except.map, Except.map, tryExcept_past hcaught] at hctx
            cases hctx
  · rintro ⟨value, hsystem⟩
    rw [hsystem]
    exact ⟨_, rfl⟩

/-- When a context is built. -/
theorem contextFor_establishes {material : Material} {answers : ContextAnswers} :
    (∃ ctx, (contextFor config material answers v).1 = .ok (some ctx)) ↔
      answers.Establishes config material v := by
  unfold contextFor ContextAnswers.Establishes
  cases hroots : material.rootCertificates with
  | none =>
      dsimp only
      rw [← systemTrustContext_iff]
      constructor
      · rintro ⟨ctx, hctx⟩
        split at hctx
        · next system hsystem => exact ⟨⟨system, hsystem⟩, attachIdentity_iff.mp ⟨ctx, hctx⟩⟩
        · next hnone => exact absurd hctx (hnone ctx)
      · rintro ⟨⟨system, hsystem⟩, hcalm⟩
        rw [hsystem]
        exact attachIdentity_iff.mpr hcalm
  | some roots =>
      dsimp only
      have hcustom := loadCa_customContext config roots answers v
      have hidentity := @loadCa_identityEscapes config v material answers roots
      generalize loadCa config roots answers v = result at hcustom hidentity ⊢
      cases hcustom with
      | escaped exn v' h =>
          constructor
          · rintro ⟨ctx, hctx⟩
            cases hctx
          · exact fun hnot => absurd h hnot.1
      | loaded anchors v' hcalm hloads _ =>
          dsimp only at hidentity ⊢
          rw [attachIdentity_iff, hidentity]
          constructor
          · exact fun h => ⟨hcalm, .inl ⟨hloads, h⟩⟩
          · rintro ⟨-, h | h⟩
            · exact h.2
            · exact absurd hloads h.1
      | reported exn v' hcalm hnot =>
          dsimp only
          constructor
          · rintro ⟨ctx, hctx⟩
            split at hctx
            · next hforce =>
              exact ⟨hcalm, .inr ⟨hnot, hforce, systemTrustContext_iff.mp ⟨ctx, hctx⟩⟩⟩
            · cases hctx
          · rintro ⟨-, h | ⟨-, hforce, hsystem⟩⟩
            · exact absurd h.1 hnot
            · rw [if_pos hforce]
              exact systemTrustContext_iff.mpr hsystem

/-- Where the process trust store works, forced TLS has a context unless something raises. -/
theorem contextFor_iff {material : Material} {answers : ContextAnswers}
    (hforce : config.agentForceTls = true) (hsystem : answers.system = .ok ()) :
    (∃ ctx, (contextFor config material answers v).1 = .ok (some ctx)) ↔
      ¬ answers.Escapes config material v := by
  have htrust : Succeeds answers.system := ⟨(), hsystem⟩
  rw [contextFor_establishes]
  unfold ContextAnswers.Establishes ContextAnswers.Escapes
  cases material.rootCertificates with
  | none => simp [htrust]
  | some roots =>
      simp only [htrust, hforce, reduceCtorEq, false_and, false_or, Option.some.injEq,
        exists_eq_left', and_true, not_or, not_and]
      tauto

theorem sslContextForCollector_iff {source : MaterialSource} {answers : ContextAnswers}
    (hforce : config.agentForceTls = true) (hshared : source.Shared pem config)
    (hsystem : answers.system = .ok ()) :
    (∃ ctx, (sslContextForCollector pem config source answers v).1 = .ok (some ctx)) ↔
      (source.argument = none → ¬ source.answers.Escapes pem config) ∧
        ∀ material, source.get pem config = .ok (some material) →
          ¬ answers.Escapes config material v := by
  have herror : (∃ exn, source.get pem config = .error exn) ↔
      source.argument = none ∧ source.answers.Escapes pem config := MaterialSource.get_error_iff
  unfold sslContextForCollector
  obtain ⟨exn, hget⟩ | ⟨material, hget⟩ := MaterialSource.get_forced hforce hshared
  · rw [hget]
    obtain ⟨hunset, hescapes⟩ := herror.mp ⟨exn, hget⟩
    constructor
    · rintro ⟨ctx, hctx⟩
      cases hctx
    · exact fun h => absurd hescapes (h.1 hunset)
  · have hcalm : source.argument = none → ¬ source.answers.Escapes pem config := by
      intro hunset hescapes
      obtain ⟨exn, hraised⟩ := herror.mpr ⟨hunset, hescapes⟩
      rw [hget] at hraised
      cases hraised
    rw [hget]
    dsimp only
    rw [contextFor_iff hforce hsystem]
    constructor
    · intro hnot
      refine ⟨hcalm, fun other hother => ?_⟩
      obtain rfl := Option.some.inj (Except.ok.inj hother)
      exact hnot
    · exact fun h => h.2 material rfl

/-- **Forced TLS and plaintext.** With `agent_force_tls`, and where the process trust store works, all
transports are encrypted and verified if and only if no exception gets past the clauses of
`tls_pem_material` and `ssl_context_for_collector` and the gRPC credentials can be built with the client
identity or without it. -/
theorem never_plaintext_iff (pem : Pem) (config : Config) (calls : Calls) (session : Session) (v : View)
    (hforce : config.agentForceTls = true) (hshared : calls.Shared pem config)
    (hgrpc : calls.grpc.system = .ok ()) (hssl : calls.ssl.system = .ok ())
    (hsession : session.verify ≠ .disabled) :
    NeverPlaintext pem config calls session v ↔ calls.Degrades pem config v := by
  constructor
  · intro h
    obtain ⟨hcalm, hretry⟩ := (grpcSslCredentials_iff hforce hgrpc).mp h.credentials
    obtain ⟨hmaterial, hcontext⟩ :=
      (sslContextForCollector_iff hforce hshared.context hssl).mp h.context
    exact ⟨hcalm, hretry, hmaterial, hcontext⟩
  · intro h
    refine ⟨?_, ?_, ?_, ?_, ?_⟩
    · exact (grpcSslCredentials_iff hforce hgrpc).mpr ⟨h.grpc, h.retry⟩
    · exact collectorHttpScheme_forced hforce hshared.scheme
    · exact requestsTlsSettings_enabled pem config calls.settings calls.requests v
    · exact configureRequestsSession_enabled pem config calls.session calls.fallback hsession v
    · exact (sslContextForCollector_iff hforce hshared.context hssl).mpr ⟨h.material, h.context⟩

/-- PEM files that are passed on as they are. -/
def plainPem : Pem := ⟨.ok, .ok⟩

def mutualTls : Config := ⟨true, "/etc/ca.crt", "/etc/client.crt", "/etc/client.pem"⟩

/-- The CA, the certificate and the key are there, and load. -/
def readableMaterial : MaterialAnswers :=
  { firstLookup := .ok (some "/etc/ca.crt")
    secondLookup := .ok (some "/etc/ca.crt")
    ca := ⟨.ok 1, .ok [1]⟩
    caParse := .ok ()
    identity :=
      { certPath := .ok (some "/etc/client.crt")
        keyPath := .ok (some "/etc/client.pem")
        cert := ⟨.ok 1, .ok [2]⟩
        key := ⟨.ok 1, .ok [3]⟩
        validate :=
          ⟨.ok (), .ok (), .ok (), .ok (), .ok (), .ok (), .ok (), .ok (), .ok (), .ok ()⟩ } }

def writable (name : String) : TempAnswer := ⟨.ok name, [1], .osError⟩

def knownPath : ConfiguredPathAnswers := ⟨.ok (some "/etc/ca.crt"), .ok "/etc/ca.crt"⟩

/-- All goes well, but for what `grpc.ssl_channel_credentials` comes to. -/
def callsWith (whole oneWay : Try Unit) : Calls :=
  let source : MaterialSource := ⟨none, readableMaterial⟩
  let requests : RequestsAnswers := ⟨writable "a", knownPath, writable "b", writable "c"⟩
  { grpc := ⟨readableMaterial, whole, oneWay, .ok ()⟩
    scheme := source
    settings := source
    requests := requests
    session := source
    fallback := ⟨requests, .ok none, knownPath⟩
    context := source
    ssl :=
      { cadata := .ok ()
        snapshot := writable "a"
        snapshotContext := .ok ()
        caPath := knownPath
        pathContext := .ok ()
        system := .ok ()
        certTemp := writable "b"
        keyTemp := writable "c"
        loadCertChain := .ok () } }

def emptyView : View := ⟨1, fun _ => none, .init⟩

theorem callsWith_shared (whole oneWay : Try Unit) : (callsWith whole oneWay).Shared plainPem mutualTls :=
  ⟨.inl rfl, .inl rfl, .inl rfl, .inl rfl⟩

theorem readableMaterial_get : tlsPemMaterial plainPem mutualTls readableMaterial =
    .ok (some ⟨some [1], some [3], some [2]⟩) := rfl

theorem readableMaterial_calm : ¬ readableMaterial.Escapes plainPem mutualTls := by
  have hloaded := tlsPemMaterial_loaded plainPem mutualTls readableMaterial
  rw [readableMaterial_get] at hloaded
  generalize hmaterial : (some ⟨some [1], some [3], some [2]⟩ : Option Material) = material at hloaded
  cases hloaded with
  | plaintext hcalm _ _ => exact hcalm
  | loaded roots identity hcalm _ _ => exact hcalm

/-- The gRPC credentials are built without the client identity in the end. -/
theorem one_way_never_plaintext :
    NeverPlaintext plainPem mutualTls (callsWith (.error .other) (.ok ())) ⟨.enabled, none⟩
      emptyView := by
  refine (never_plaintext_iff plainPem mutualTls (callsWith (.error .other) (.ok ())) ⟨.enabled, none⟩
    emptyView rfl (callsWith_shared _ _) rfl rfl (by simp)).mpr ⟨?_, ?_, ?_, ?_⟩
  · exact readableMaterial_calm
  · exact fun _ => .inr ⟨(), rfl⟩
  · exact fun _ => readableMaterial_calm
  · intro material hmaterial
    obtain rfl := Option.some.inj (Except.ok.inj (readableMaterial_get.symm.trans hmaterial))
    rw [← contextFor_iff rfl rfl]
    exact ⟨⟨.cadata [1], some ("b.crt", "c.pem")⟩, rfl⟩

/-- The credentials can be built neither with the client identity nor from the custom CA alone. The
process trust store would work, and is not tried. -/
theorem custom_ca_plaintext :
    (mutualTls.agentForceTls = true ∧
      (callsWith (.error .other) (.error .other)).Shared plainPem mutualTls ∧
      (callsWith (.error .other) (.error .other)).grpc.system = .ok () ∧
      (callsWith (.error .other) (.error .other)).ssl.system = .ok ()) ∧
    ¬ NeverPlaintext plainPem mutualTls (callsWith (.error .other) (.error .other))
      ⟨.enabled, none⟩ emptyView := by
  refine ⟨⟨rfl, callsWith_shared _ _, rfl, rfl⟩, fun h => ?_⟩
  obtain ⟨credentials, hcredentials⟩ := h.credentials
  have hnone : grpcSslCredentials plainPem mutualTls
      (callsWith (.error .other) (.error .other)).grpc = .ok none := rfl
  rw [hnone] at hcredentials
  cases hcredentials

end Tls

end SkyWalking
