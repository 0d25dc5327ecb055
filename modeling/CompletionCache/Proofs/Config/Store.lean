import CompletionCache.Config.Store
import CompletionCache.Proofs.Store.Endpoint

/-!
# Which settings of a store are in order

The settings of a store pass the check when their address can be read, has the scheme of a store, and
connections have time (`StoreConfig.check_eq_ok_iff`). Their endpoint is known when the address also gives
the client of the store what it needs (`StoreConfig.endpoint_eq_ok_iff`).
-/

set_option autoImplicit false

namespace CompletionCache.StoreConfig

open Json (bind_eq_ok mapError_eq_ok)

variable {store : StoreConfig}

/-- What is checked is the address that the settings write. -/
theorem check_eq_ok_iff {url : Url} :
    store.check = .ok url ↔ store.parsedUrl = .ok url ∧ url.scheme ∈ Endpoint.schemes ∧
      store.connectTimeoutMillis ≠ 0 := by
  have known (scheme : List Char) :
      (!Endpoint.schemes.contains scheme) = true ↔ scheme ∉ Endpoint.schemes := by simp
  constructor
  · intro checked
    obtain ⟨parsed, read, checked⟩ := bind_eq_ok.1 checked
    dsimp only at checked
    by_cases scheme : (!Endpoint.schemes.contains parsed.scheme) = true
    · rw [if_pos scheme] at checked
      cases checked
    · rw [if_neg scheme] at checked
      by_cases zero : store.connectTimeoutMillis = 0
      · rw [if_pos zero] at checked
        cases checked
      · rw [if_neg zero] at checked
        cases checked
        exact ⟨mapError_eq_ok.1 read, not_not.1 (mt (known _).2 scheme), zero⟩
  · rintro ⟨read, scheme, time⟩
    refine bind_eq_ok.2 ⟨url, mapError_eq_ok.2 read, ?_⟩
    dsimp only
    rw [if_neg (fun unknown => (known _).1 unknown scheme), if_neg time]
    rfl

/-- Settings of a store are valid exactly when they pass the check. -/
theorem validate_eq_ok_iff : store.validate = .ok () ↔ ∃ url, store.check = .ok url := by
  rw [validate]
  cases store.check <;> simp

theorem endpoint_eq_ok_iff :
    (∃ endpoint, store.endpoint = .ok endpoint) ↔
      ∃ url, store.check = .ok url ∧ Endpoint.Usable url := by
  constructor
  · rintro ⟨endpoint, ok⟩
    obtain ⟨url, checked, opened⟩ := bind_eq_ok.1 ok
    exact ⟨url, checked, (Endpoint.ofUrl_eq_ok_iff url).1 ⟨_, mapError_eq_ok.1 opened⟩⟩
  · rintro ⟨url, checked, usable⟩
    obtain ⟨endpoint, opened⟩ := (Endpoint.ofUrl_eq_ok_iff url).2 usable
    exact ⟨endpoint, bind_eq_ok.2 ⟨url, checked, mapError_eq_ok.2 opened⟩⟩

end CompletionCache.StoreConfig
