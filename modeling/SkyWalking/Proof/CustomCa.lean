import Mathlib
import SkyWalking.Proof.ForceTls
import SkyWalking.Proof.TempFilesLemmas

/-!
# The client identity goes with the custom CA

The material has an identity only together with root certificates of the configured CA. The builders
drop the identity with them, all but `requests_tls_settings`.
-/

namespace SkyWalking

namespace Tls

variable {pem : Pem} {config : Config} {v v' : View}

theorem tlsPemMaterial_custom {answers : MaterialAnswers} {material : Material}
    (h : tlsPemMaterial pem config answers = .ok (some material)) :
    (∀ roots, material.rootCertificates = some roots → answers.CustomCa pem config roots) ∧
      (material.privateKey ≠ none ∨ material.certificateChain ≠ none →
        ∃ roots, material.rootCertificates = some roots) := by
  have hloaded := tlsPemMaterial_loaded pem config answers
  rw [h] at hloaded
  generalize hsome : some material = found at hloaded
  cases hloaded with
  | plaintext _ _ _ => cases hsome
  | loaded roots identity _ hroots hidentity =>
      obtain rfl := Option.some.inj hsome
      refine ⟨fun bytes hbytes => (hroots bytes).mp hbytes, fun hsome => ?_⟩
      have hpresent : identity.isSome = true :=
        (Material.of_identity roots identity).mp
          (hsome.imp Option.isSome_iff_ne_none.mpr Option.isSome_iff_ne_none.mpr)
      obtain ⟨⟨bytes, hcustom⟩, -⟩ := hidentity.mp hpresent
      exact ⟨bytes, (hroots bytes).mpr hcustom⟩

theorem MaterialSource.get_custom {source : MaterialSource} (hshared : source.Shared pem config)
    {material : Material} (hget : source.get pem config = .ok (some material)) :
    (∀ roots, material.rootCertificates = some roots → source.CustomCa pem config roots) ∧
      (material.privateKey ≠ none ∨ material.certificateChain ≠ none →
        ∃ roots, material.rootCertificates = some roots) := by
  unfold MaterialSource.get at hget
  obtain hunset | ⟨answers, hshared⟩ := hshared
  · rw [hunset] at hget
    obtain ⟨hcustom, hidentity⟩ := tlsPemMaterial_custom hget
    exact ⟨fun roots h => .inl ⟨hunset, hcustom roots h⟩, hidentity⟩
  · rw [hshared] at hget
    have hsafe : safeTlsPemMaterial pem config answers = some material := Except.ok.inj hget
    unfold safeTlsPemMaterial at hsafe
    cases hloaded : tlsPemMaterial pem config answers with
    | ok loaded =>
        rw [hloaded] at hsafe
        obtain ⟨hcustom, hidentity⟩ := tlsPemMaterial_custom (hloaded.trans (congrArg Except.ok hsafe))
        exact ⟨fun roots h => .inr ⟨answers, hshared, hcustom roots h⟩, hidentity⟩
    | error exn =>
        -- The system trust has neither certificates nor an identity.
        rw [hloaded] at hsafe
        dsimp only at hsafe
        split at hsafe
        · obtain rfl := Option.some.inj hsafe
          refine ⟨(fun roots h => by cases h), ?_⟩
          rintro (h | h)
          exacts [absurd rfl h, absurd rfl h]
        · cases hsafe

/-- When the material has a CA and a client identity. -/
theorem MaterialSource.get_identified_iff {source : MaterialSource}
    {roots privateKey certificateChain : Bytes} :
    source.get pem config = .ok (some ⟨some roots, some privateKey, some certificateChain⟩) ↔
      source.Identified pem config roots privateKey certificateChain := by
  unfold MaterialSource.get MaterialSource.Identified
  cases hargument : source.argument with
  | some material => simp
  | none =>
      simp only [reduceCtorEq, true_and, false_or]
      have hloaded := tlsPemMaterial_loaded pem config source.answers
      generalize tlsPemMaterial pem config source.answers = material at hloaded ⊢
      cases hloaded with
      | escaped exn hescapes =>
          exact ⟨(fun h => by cases h), fun h => absurd hescapes h.1⟩
      | plaintext _ _ hnone =>
          exact ⟨(fun h => by cases h), fun h => absurd h.2.1 (hnone roots)⟩
      | loaded custom identity hcalm hcustom hidentity hreads =>
          constructor
          · intro h
            have hmaterial := Option.some.inj (Except.ok.inj h)
            have hroots : custom = some roots := congrArg Material.rootCertificates hmaterial
            have hkey := congrArg Material.privateKey hmaterial
            have hchain := congrArg Material.certificateChain hmaterial
            cases identity with
            | none => cases hkey
            | some pair =>
                obtain ⟨chain, key⟩ := pair
                obtain rfl := Option.some.inj hkey
                obtain rfl := Option.some.inj hchain
                obtain ⟨-, hfound, -⟩ := hidentity.mp rfl
                exact ⟨hcalm, (hcustom roots).mp hroots, hfound, hreads _ rfl⟩
          · rintro ⟨-, hroots, hfound, hread⟩
            obtain ⟨pair, rfl⟩ := Option.isSome_iff_exists.mp
              (hidentity.mpr ⟨⟨roots, hroots⟩, hfound, _, hread⟩)
            obtain rfl := Except.ok.inj ((hreads pair rfl).symm.trans hread)
            rw [(hcustom roots).mpr hroots]
            rfl

/-- Credentials with a client identity are the first ones. -/
theorem credentialsFor_identity {material : Material} {answers : GrpcAnswers}
    {credentials : Credentials} (h : credentialsFor config material answers = .ok (some credentials))
    (hidentity : credentials.privateKey ≠ none ∨ credentials.certificateChain ≠ none) :
    credentials = ⟨material.rootCertificates, material.privateKey, material.certificateChain⟩ := by
  unfold credentialsFor sslChannelCredentials at h
  cases hwhole : answers.whole with
  | ok value =>
      rw [hwhole] at h
      exact (Option.some.inj (Except.ok.inj h)).symm
  | error exn =>
      exfalso
      have hnone : credentials.privateKey = none ∧ credentials.certificateChain = none := by
        rw [hwhole] at h
        change ite _ _ _ = _ at h
        split at h
        · cases honeWay : answers.oneWay with
          | ok value =>
              rw [honeWay] at h
              obtain rfl := Option.some.inj (Except.ok.inj h)
              exact ⟨rfl, rfl⟩
          | error raised =>
              rw [honeWay] at h
              cases h
        · split at h
          · cases hsystem : answers.system with
            | ok value =>
                rw [hsystem] at h
                obtain rfl := Option.some.inj (Except.ok.inj h)
                exact ⟨rfl, rfl⟩
            | error raised =>
                rw [hsystem] at h
                cases h
          · cases h
      obtain h | h := hidentity
      exacts [h hnone.1, h hnone.2]

theorem grpcSslCredentials_guarded {answers : GrpcAnswers} {credentials : Credentials}
    (h : grpcSslCredentials pem config answers = .ok (some credentials))
    (hidentity : credentials.privateKey ≠ none ∨ credentials.certificateChain ≠ none) :
    ∃ roots, credentials.rootCertificates = some roots ∧
      answers.material.CustomCa pem config roots := by
  unfold grpcSslCredentials at h
  cases hmaterial : tlsPemMaterial pem config answers.material with
  | error exn =>
      rw [hmaterial] at h
      cases h
  | ok found =>
      rw [hmaterial] at h
      cases found with
      | none => cases h
      | some material =>
          obtain rfl := credentialsFor_identity h hidentity
          obtain ⟨hcustom, hroots⟩ := tlsPemMaterial_custom hmaterial
          obtain ⟨roots, hsome⟩ := hroots hidentity
          exact ⟨roots, hsome, hcustom roots hsome⟩

/-- The snapshot is cached. -/
theorem caVerifyTempFile_cached {roots : Bytes} {answer : TempAnswer} {path : String}
    (h : (v.caVerifyTempFile roots answer).1 = .ok path) :
    (v.caVerifyTempFile roots answer).2.globals.caFileCache = some path ∧
      (v.caVerifyTempFile roots answer).2.globals.caFileCacheKey = some roots := by
  unfold View.caVerifyTempFile at h ⊢
  cases hcached : v.caCached roots with
  | some cached =>
      rw [hcached] at h
      obtain rfl := Except.ok.inj h
      unfold View.caCached at hcached
      split at hcached
      · next hkey => exact ⟨(Option.filter_eq_some_iff.mp hcached).1, hkey⟩
      · cases hcached
  | none =>
      rw [hcached] at h
      have hcreated := pemBytesToTempFile_created roots ".crt" answer v
      generalize v.pemBytesToTempFile roots ".crt" answer = result at h hcreated ⊢
      cases hcreated with
      | failed exn => cases h
      | created other _ =>
          obtain rfl := Except.ok.inj h
          exact ⟨rfl, rfl⟩

theorem Paired.caCache {certificateChain privateKey : Bytes}
    {result : Try (Option (String × String)) × View} (h : Paired certificateChain privateKey v result) :
    result.2.globals.caFileCache = v.globals.caFileCache ∧
      result.2.globals.caFileCacheKey = v.globals.caFileCacheKey := by
  cases h with
  | cached paths _ => exact ⟨rfl, rfl⟩
  | failed result paths _ _ => exact ⟨rfl, rfl⟩
  | orphaned certPath exn _ _ => exact ⟨rfl, rfl⟩
  | created certPath keyPath v' v'' _ hv' _ hv'' =>
      subst hv'' hv'
      exact ⟨rfl, rfl⟩

/-- The snapshot still has the certificates when the files of the identity are written. -/
theorem anchored_snapshot (hv : v.Consistent) {roots : Bytes} {answer : TempAnswer} {path : String}
    (h : (v.caVerifyTempFile roots answer).1 = .ok path) (caPath : ConfiguredPathAnswers)
    (certificateChain privateKey : Bytes) (certAnswer keyAnswer : TempAnswer) :
    ((v.caVerifyTempFile roots answer).2.mtlsCertKeyFiles certificateChain privateKey certAnswer
      keyAnswer).2.Anchored roots caPath path := by
  obtain ⟨hcache, hkey⟩ := caVerifyTempFile_cached h
  have hconsistent := (Keeps.caVerifyTempFile roots answer v).consistent hv
  generalize (v.caVerifyTempFile roots answer).2 = snapshot at hcache hkey hconsistent ⊢
  have hpaired :=
    mtlsCertKeyFiles_paired certificateChain privateKey certAnswer keyAnswer snapshot
  obtain ⟨hcache', hkey'⟩ := hpaired.caCache
  obtain ⟨key, hbytes, hfile⟩ := (hpaired.keeps.consistent hconsistent).ca path (hcache'.trans hcache)
  have hsame : some roots = some key := calc
    some roots = snapshot.globals.caFileCacheKey := hkey.symm
    _ = _ := hkey'.symm
    _ = some key := hbytes
  obtain rfl := Option.some.inj hsame
  exact .inl ⟨_, hfile⟩

theorem settingsFor_pair {material : Material} {answers : RequestsAnswers} {verify : Verify}
    {pair : String × String}
    (h : settingsFor config material answers v = (.ok (verify, some pair), v')) :
    ∃ privateKey certificateChain, material.privateKey = some privateKey ∧
      material.certificateChain = some certificateChain ∧
      (requestsVerify config material.rootCertificates answers v).1 = .ok verify ∧
      (requestsVerify config material.rootCertificates answers v).2.mtlsCertKeyFiles certificateChain
        privateKey answers.certTemp answers.keyTemp = (.ok (some pair), v') := by
  unfold settingsFor at h
  generalize requestsVerify config material.rootCertificates answers v = result at h ⊢
  obtain ⟨outcome, w⟩ := result
  cases outcome with
  | error exn => cases (Prod.mk.inj h).1
  | ok found =>
      dsimp only at h
      split at h
      · next privateKey certificateChain hkey hchain =>
        split at h
        · cases (Prod.mk.inj h).1
        · next files w' hfiles =>
          obtain ⟨hresult, rfl⟩ := Prod.mk.inj h
          obtain ⟨rfl, rfl⟩ := Prod.mk.inj (Except.ok.inj hresult)
          exact ⟨privateKey, certificateChain, hkey, hchain, rfl, hfiles⟩
      · cases (Prod.mk.inj (Except.ok.inj (Prod.mk.inj h).1)).2

/-- What `verify` is for custom root certificates. -/
inductive Verified (config : Config) (roots : Bytes) (answers : RequestsAnswers) (v : View) :
    Try Verify × View → Prop where
  | snapshot (path : String) : (v.caVerifyTempFile roots answers.caTemp).1 = .ok path →
      Verified config roots answers v
        (.ok (.caFile path), (v.caVerifyTempFile roots answers.caTemp).2)
  | configured (path : String) (w : View) : answers.caPath.absolute = .ok path →
      Verified config roots answers v (.ok (.caFile path), w)
  | discarded : (v.caVerifyTempFile roots answers.caTemp).1 = .error .osError →
      configuredCaPathForVerify config answers.caPath = .ok none →
      Verified config roots answers v (.ok .enabled, (v.caVerifyTempFile roots answers.caTemp).2)
  | raised (exn : Exn) (w : View) : Verified config roots answers v (.error exn, w)

theorem requestsVerify_verified (config : Config) (roots : Bytes) (answers : RequestsAnswers)
    (v : View) : Verified config roots answers v (requestsVerify config (some roots) answers v) := by
  have hsnapshot := @Verified.snapshot config roots answers v
  have hdiscarded := @Verified.discarded config roots answers v
  unfold requestsVerify
  dsimp only
  generalize v.caVerifyTempFile roots answers.caTemp = result at hsnapshot hdiscarded ⊢
  obtain ⟨outcome, w⟩ := result
  cases outcome with
  | ok path => exact hsnapshot path rfl
  | error exn =>
      have hconfigured := configuredCaPathForVerify_configured config answers.caPath
      generalize configuredCaPathForVerify config answers.caPath = configured at hdiscarded hconfigured ⊢
      cases exn with
      | osError =>
          cases hconfigured with
          | escaped exn _ => exact .raised exn w
          | known path _ _ habsolute => exact .configured path w habsolute
          | unknown _ _ => exact hdiscarded rfl rfl
      | valueError => exact .raised _ w
      | runtimeError => exact .raised _ w
      | other => exact .raised _ w

theorem requestsVerify_discarded {roots : Bytes} {answers : RequestsAnswers}
    (hsnapshot : (v.caVerifyTempFile roots answers.caTemp).1 = .error .osError)
    (hpath : configuredCaPathForVerify config answers.caPath = .ok none) :
    requestsVerify config (some roots) answers v =
      (.ok .enabled, (v.caVerifyTempFile roots answers.caTemp).2) := by
  unfold requestsVerify
  dsimp only
  generalize v.caVerifyTempFile roots answers.caTemp = result at hsnapshot ⊢
  obtain ⟨outcome, w⟩ := result
  obtain rfl : outcome = .error .osError := hsnapshot
  dsimp only
  rw [hpath]

theorem configuredCaPathForVerify_none_iff {answers : ConfiguredPathAnswers} :
    configuredCaPathForVerify config answers = .ok none ↔
      ¬ answers.Known config ∧ ¬ answers.Escapes config := by
  have hconfigured := configuredCaPathForVerify_configured config answers
  generalize configuredCaPathForVerify config answers = configured at hconfigured ⊢
  cases hconfigured with
  | escaped exn hescapes => exact ⟨(fun h => by cases h), fun h => absurd hescapes h.2⟩
  | known path _ hknown _ => exact ⟨(fun h => by cases h), fun h => absurd hknown h.1⟩
  | unknown hcalm hunknown => exact ⟨fun _ => ⟨hunknown, hcalm⟩, fun _ => rfl⟩

/-- A snapshot that is not written leaves the answers for the client identity as they are. -/
theorem identityFiles_of_snapshot_fails {roots certificateChain privateKey : Bytes}
    {answer certAnswer keyAnswer : TempAnswer} {exn : Exn}
    (hfails : answer.Fails roots ".crt" v.Used exn) :
    (∃ pair, ((v.caVerifyTempFile roots answer).2.mtlsCertKeyFiles certificateChain privateKey
        certAnswer keyAnswer).1 = .ok (some pair)) ↔
      v.IdentityFiles certificateChain privateKey certAnswer keyAnswer v.Used := by
  have hused : ∀ path, (v.caVerifyTempFile roots answer).2.Used path ↔ v.Used path := by
    intro path
    rw [caVerifyTempFile_used]
    exact or_iff_left fun h => h.2.not_fails exn hfails
  rw [mtlsCertKeyFiles_pair_iff]
  exact View.IdentityFiles.congr (caVerifyTempFile_mtlsCached roots answer v _ _) hused

theorem settings_guarded_iff {calls : Calls} (hv : v.Consistent)
    (hshared : calls.settings.Shared pem config) :
    (∀ verify pair v',
      requestsTlsSettings pem config calls.settings calls.requests v = (.ok (verify, some pair), v') →
      ∃ roots path, verify = .caFile path ∧ calls.settings.CustomCa pem config roots ∧
        v'.Anchored roots calls.requests.caPath path) ↔ ¬ calls.Exposes pem config v := by
  constructor
  · rintro hguarded ⟨roots, privateKey, certificateChain, hidentified, hcached, hfails, hunknown,
      hcalm, hfiles⟩
    have hget := MaterialSource.get_identified_iff.mpr hidentified
    have hsnapshot := caVerifyTempFile_error_iff.mpr ⟨hcached, hfails⟩
    have hpath := configuredCaPathForVerify_none_iff.mpr ⟨hunknown, hcalm⟩
    obtain ⟨pair, hpair⟩ := (identityFiles_of_snapshot_fails hfails).mpr hfiles
    obtain ⟨w, hfiles⟩ : ∃ w,
        (v.caVerifyTempFile roots calls.requests.caTemp).2.mtlsCertKeyFiles certificateChain privateKey
          calls.requests.certTemp calls.requests.keyTemp = (.ok (some pair), w) :=
      ⟨_, Prod.ext hpair rfl⟩
    have hsettings : requestsTlsSettings pem config calls.settings calls.requests v =
        (.ok (.enabled, some pair), w) := by
      unfold requestsTlsSettings settingsFor
      rw [hget]
      dsimp only
      rw [requestsVerify_discarded hsnapshot hpath]
      dsimp only
      rw [hfiles]
    obtain ⟨_, path, hverify, -⟩ := hguarded _ _ _ hsettings
    cases hverify
  · intro hnot verify pair v' hsettings
    unfold requestsTlsSettings at hsettings
    cases hget : calls.settings.get pem config with
    | error exn =>
        rw [hget] at hsettings
        cases (Prod.mk.inj hsettings).1
    | ok found =>
        rw [hget] at hsettings
        cases found with
        | none => cases (Prod.mk.inj (Except.ok.inj (Prod.mk.inj hsettings).1)).2
        | some material =>
            obtain ⟨hcustom, hroots⟩ := MaterialSource.get_custom hshared hget
            obtain ⟨privateKey, certificateChain, hkey, hchain, hverify, hfiles⟩ :=
              settingsFor_pair hsettings
            obtain ⟨roots, hsome⟩ := hroots (.inl (by simp [hkey]))
            rw [hsome] at hverify hfiles
            have hverified := requestsVerify_verified config roots calls.requests v
            generalize requestsVerify config (some roots) calls.requests v = result
              at hverify hfiles hverified
            cases hverified with
            | snapshot path hsnapshot =>
                obtain rfl := Except.ok.inj hverify
                refine ⟨roots, path, rfl, hcustom roots hsome, ?_⟩
                have hanchored := anchored_snapshot hv hsnapshot calls.requests.caPath certificateChain
                  privateKey calls.requests.certTemp calls.requests.keyTemp
                rw [hfiles] at hanchored
                exact hanchored
            | configured path w habsolute =>
                obtain rfl := Except.ok.inj hverify
                exact ⟨roots, path, rfl, hcustom roots hsome, .inr habsolute⟩
            | discarded hsnapshot hpath =>
                obtain ⟨hcached, hfails⟩ := caVerifyTempFile_error_iff.mp hsnapshot
                obtain ⟨hunknown, hcalm⟩ := configuredCaPathForVerify_none_iff.mp hpath
                refine absurd ⟨roots, privateKey, certificateChain, ?_, hcached, hfails, hunknown, hcalm,
                  ?_⟩ hnot
                · rw [← MaterialSource.get_identified_iff, hget, ← hsome, ← hkey, ← hchain]
                · exact (identityFiles_of_snapshot_fails hfails).mp ⟨pair, congrArg Prod.fst hfiles⟩
            | raised exn w => cases hverify

/-- The identity is loaded into the context that is there, from files that are written for it. -/
theorem attachIdentity_eq {material : Material} {answers : ContextAnswers} {ctx ctx' : SslContext}
    {pair : String × String} (hnone : ctx.identity = none)
    (h : attachIdentity material answers ctx v = (.ok (some ctx'), v'))
    (hpair : ctx'.identity = some pair) :
    ctx'.anchors = ctx.anchors ∧ material.privateKey ≠ none ∧
      ∃ certificateChain privateKey, v' =
        (v.mtlsCertKeyFiles certificateChain privateKey answers.certTemp answers.keyTemp).2 := by
  have hsame : ctx' ≠ ctx := by
    rintro rfl
    rw [hnone] at hpair
    cases hpair
  unfold attachIdentity at h
  split at h
  · next privateKey certificateChain hkey hchain =>
    unfold loadIdentity at h
    generalize hfiles : v.mtlsCertKeyFiles certificateChain privateKey answers.certTemp answers.keyTemp =
      result at h
    obtain ⟨outcome, w⟩ := result
    cases outcome with
    | error exn => cases (Prod.mk.inj h).1
    | ok found =>
        cases found with
        | none => exact absurd (Option.some.inj (Except.ok.inj (Prod.mk.inj h).1)).symm hsame
        | some files =>
            obtain ⟨hresult, rfl⟩ := Prod.mk.inj h
            refine ⟨?_, by simp [hkey], certificateChain, privateKey, congrArg Prod.snd hfiles.symm⟩
            cases hload : answers.loadCertChain with
            | ok value =>
                rw [hload] at hresult
                obtain rfl := Option.some.inj (Except.ok.inj hresult)
                rfl
            | error exn =>
                rw [hload] at hresult
                change ite _ _ _ = _ at hresult
                split at hresult
                · exact absurd (Option.some.inj (Except.ok.inj hresult)).symm hsame
                · cases hresult
  · exact absurd (Option.some.inj (Except.ok.inj (Prod.mk.inj h).1)).symm hsame

theorem systemTrustContext_identity {answers : ContextAnswers} {ctx : SslContext}
    (h : systemTrustContext answers = .ok (some ctx)) : ctx.identity = none := by
  unfold systemTrustContext createDefaultContext at h
  cases hsystem : answers.system with
  | ok value =>
      rw [hsystem] at h
      obtain rfl := Option.some.inj (Except.ok.inj h)
      rfl
  | error exn =>
      rw [hsystem] at h
      change ite _ _ _ = _ at h
      split at h
      · cases h
      · cases h

/-- A context with a client identity trusts the custom CA. -/
theorem contextFor_guarded (hv : v.Consistent) {material : Material} {answers : ContextAnswers}
    {ctx : SslContext} {pair : String × String}
    (hroots : material.privateKey ≠ none ∨ material.certificateChain ≠ none →
      ∃ roots, material.rootCertificates = some roots)
    (h : contextFor config material answers v = (.ok (some ctx), v')) (hpair : ctx.identity = some pair) :
    ∃ roots, material.rootCertificates = some roots ∧ (ctx.anchors = .cadata roots ∨
      ∃ path, ctx.anchors = .cafile path ∧ v'.Anchored roots answers.caPath path) := by
  unfold contextFor at h
  cases hcustom : material.rootCertificates with
  | none =>
      exfalso
      rw [hcustom] at h
      dsimp only at h
      split at h
      · next system hsystem =>
        obtain ⟨-, hkey, -⟩ := attachIdentity_eq (systemTrustContext_identity hsystem) h hpair
        obtain ⟨roots, hsome⟩ := hroots (.inl hkey)
        rw [hcustom] at hsome
        cases hsome
      · next hsystem => exact hsystem ctx (Prod.mk.inj h).1
  | some roots =>
      refine ⟨roots, rfl, ?_⟩
      rw [hcustom] at h
      dsimp only at h
      have hcontext := loadCa_customContext config roots answers v
      generalize loadCa config roots answers v = result at h hcontext
      cases hcontext with
      | escaped exn w _ => cases (Prod.mk.inj h).1
      | reported exn w _ _ =>
          exfalso
          have hresult := (Prod.mk.inj h).1
          split at hresult
          · rw [systemTrustContext_identity hresult] at hpair
            cases hpair
          · cases hresult
      | loaded anchors w _ _ htrusts =>
          obtain ⟨hanchors, -, certificateChain, privateKey, rfl⟩ := attachIdentity_eq rfl h hpair
          rw [hanchors]
          obtain hcadata | ⟨path, hpath, hfrom, rfl⟩ := htrusts
          · exact .inl hcadata
          · refine .inr ⟨path, hpath, ?_⟩
            obtain hsnapshot | habsolute := hfrom
            · exact anchored_snapshot hv hsnapshot answers.caPath certificateChain privateKey
                answers.certTemp answers.keyTemp
            · exact .inr habsolute

theorem sslContextForCollector_guarded (hv : v.Consistent) {source : MaterialSource}
    (hshared : source.Shared pem config) {answers : ContextAnswers} {ctx : SslContext}
    {pair : String × String}
    (h : sslContextForCollector pem config source answers v = (.ok (some ctx), v'))
    (hpair : ctx.identity = some pair) :
    ∃ roots, source.CustomCa pem config roots ∧ (ctx.anchors = .cadata roots ∨
      ∃ path, ctx.anchors = .cafile path ∧ v'.Anchored roots answers.caPath path) := by
  unfold sslContextForCollector at h
  cases hget : source.get pem config with
  | error exn =>
      rw [hget] at h
      cases (Prod.mk.inj h).1
  | ok found =>
      rw [hget] at h
      cases found with
      | none => cases Except.ok.inj (Prod.mk.inj h).1
      | some material =>
          obtain ⟨hcustom, hroots⟩ := MaterialSource.get_custom hshared hget
          obtain ⟨roots, hsome, hanchors⟩ := contextFor_guarded hv hroots h hpair
          exact ⟨roots, hcustom roots hsome, hanchors⟩

/-- **A client identity and the custom CA.** In every state of the temporary files, a client identity is
shown only to a collector that the configured CA authenticates, if and only if `requests_tls_settings`
does not lose the CA: its snapshot cannot be written and its path is not there, while the files of the
identity are. -/
theorem identity_guarded_iff (pem : Pem) (config : Config) (calls : Calls) {start pid : Nat}
    {files : String → Option Bytes} {ops : List Op} {w : World} {v : View}
    (hrun : Run Step (.init start files) ops w) (hview : w.view pid = some v)
    (hshared : calls.Shared pem config) :
    IdentityGuarded pem config calls v ↔ ¬ calls.Exposes pem config v := by
  have hworld : w.Consistent :=
    hrun.invariant (fun _ _ _ h hstep => h.step hstep) (World.Consistent.init start files)
  have hv : v.Consistent := hworld.views pid v hview
  constructor
  · exact fun h => (settings_guarded_iff hv hshared.settings).mp h.settings
  · intro hnot
    refine ⟨?_, (settings_guarded_iff hv hshared.settings).mpr hnot, ?_⟩
    · exact fun credentials h hidentity => grpcSslCredentials_guarded h hidentity
    · exact fun ctx pair v' h hpair => sslContextForCollector_guarded hv hshared.context h hpair

theorem emptyView_reached : (World.init 1 fun _ => none).view 1 = some emptyView := rfl

/-- The snapshot and the files of the identity are written. -/
theorem snapshot_guarded :
    (requestsTlsSettings plainPem mutualTls (callsWith (.ok ()) (.ok ())).settings
      (callsWith (.ok ()) (.ok ())).requests emptyView).1 =
        .ok (.caFile "a.crt", some ("b.crt", "c.pem")) ∧
      IdentityGuarded plainPem mutualTls (callsWith (.ok ()) (.ok ())) emptyView := by
  refine ⟨rfl, (identity_guarded_iff plainPem mutualTls (callsWith (.ok ()) (.ok ())) (Run.nil _)
    emptyView_reached (callsWith_shared _ _)).mpr ?_⟩
  rintro ⟨roots, privateKey, certificateChain, -, -, -, hunknown, -⟩
  exact hunknown ⟨⟨by decide, "/etc/ca.crt", rfl⟩, "/etc/ca.crt", rfl⟩

/-- The CA file is removed after it was loaded, and its snapshot cannot be written. -/
def rotatedCalls : Calls :=
  { callsWith (.ok ()) (.ok ()) with
    requests :=
      { caTemp := ⟨.error .osError, [], .osError⟩
        caPath := ⟨.ok none, .ok "/etc/ca.crt"⟩
        certTemp := writable "b"
        keyTemp := writable "c" } }

/-- The client identity is shown to any collector that the process trust store accepts. -/
theorem rotated_exposes :
    rotatedCalls.Shared plainPem mutualTls ∧
      ¬ IdentityGuarded plainPem mutualTls rotatedCalls emptyView := by
  refine ⟨⟨.inl rfl, .inl rfl, .inl rfl, .inl rfl⟩, fun h => ?_⟩
  obtain ⟨v', hview⟩ : ∃ v', (requestsTlsSettings plainPem mutualTls rotatedCalls.settings
    rotatedCalls.requests emptyView).2 = v' := ⟨_, rfl⟩
  have hsettings : requestsTlsSettings plainPem mutualTls rotatedCalls.settings rotatedCalls.requests
      emptyView = (.ok (.enabled, some ("b.crt", "c.pem")), v') := Prod.ext rfl hview
  obtain ⟨_, path, hverify, -⟩ := h.settings _ _ _ hsettings
  cases hverify

end Tls

end SkyWalking
