import SkyWalking.Proof.ForceTls

/-!
# The scheme of the URLs and the SSL context

The scheme is decided from the material alone; the context may still be given up.
-/

namespace SkyWalking

namespace Tls

variable (pem : Pem) (config : Config) (unset : MaterialAnswers) (answers : ContextAnswers) (v : View)

theorem collectorHttpScheme_given (material : Option Material) :
    collectorHttpScheme pem config ⟨some material, unset⟩ = "https://" ↔ material.isSome := by
  cases material with
  | none => simp [collectorHttpScheme, MaterialSource.get]
  | some material => simp [collectorHttpScheme, MaterialSource.get]

theorem sslContextForCollector_given (material : Option Material) :
    sslContextForCollector pem config ⟨some material, unset⟩ answers v =
      match material with
      | none => (.ok none, v)
      | some material => contextFor config material answers v := by
  cases material with
  | none => rfl
  | some material => rfl

/-- **Scheme and context.** For material that both functions are given, they agree and neither of them
raises exactly if the context is built whenever there is material. -/
theorem scheme_agrees_iff (material : Option Material) :
    SchemeAgrees pem config ⟨some material, unset⟩ answers v ↔
      ∀ m, material = some m → answers.Establishes config m v := by
  unfold SchemeAgrees
  rw [collectorHttpScheme_given, sslContextForCollector_given]
  cases material with
  | none =>
      have hplain : (none : Option Material).isSome = true ↔
          ∃ ctx, (Except.ok none : Try (Option SslContext)) = .ok (some ctx) := by simp
      refine iff_of_true ⟨⟨none, rfl⟩, hplain⟩ ?_
      rintro m ⟨⟩
  | some material =>
      simp only [Option.isSome_some, true_iff, Option.some.injEq, forall_eq']
      rw [contextFor_establishes]
      constructor
      · exact fun h => h.2
      · intro h
        obtain ⟨ctx, hctx⟩ := contextFor_establishes.mpr h
        exact ⟨⟨some ctx, hctx⟩, h⟩

/-- With forced TLS and without a CA, there is no context if the process trust store cannot be loaded. -/
theorem no_trust_store_no_context :
    ¬ ∀ (pem : Pem) (config : Config) (material : Option Material) (unset : MaterialAnswers)
      (answers : ContextAnswers) (v : View),
      SchemeAgrees pem config ⟨some material, unset⟩ answers v := by
  intro h
  have hagrees := h plainPem mutualTls (some .systemTrust) readableMaterial
    { (callsWith (.ok ()) (.ok ())).ssl with system := .error .osError } emptyView
  obtain ⟨ctx, hctx⟩ := hagrees.2.mp rfl
  have hnone : (sslContextForCollector plainPem mutualTls ⟨some (some .systemTrust), readableMaterial⟩
      { (callsWith (.ok ()) (.ok ())).ssl with system := .error .osError } emptyView).1 = .ok none := rfl
  rw [hnone] at hctx
  cases hctx

end Tls

end SkyWalking
