import Rebac.Proofs.Steps
import Rebac.Proofs.Token.Library
import Rebac.Token.BuiltIn

namespace Rebac.Token

/-!
# The library does what is documented

* `problem?_eq_none_iff` — when claims pass, `problem?_of_foreign` what is told if just the issuer is
  wrong.
* `Library.opens_iff` — when a token opens, `Library.decode_of_opens` what then becomes of it;
  `Library.opens_of_decode` — a token that is accepted opens.
* `Library.documented_builtIn` — **the library does what is documented**.
-/

variable {v : Validation} {c : Claims} {now : Nat}

/-! ### Claims -/

/-- Names meet a list exactly if they include one of it. -/
theorem meets_iff {accepted : List String} {names : Names} :
    Validation.meets accepted names = true ↔ ∃ name ∈ accepted, names.includes name = true := by
  simp [Validation.meets]

/-- The test of an audience is the one that is documented. -/
theorem isMeant_iff {names : Names} :
    Validation.problem?.isMeant v names = true ↔ v.IsFor names := by
  unfold Validation.problem?.isMeant Validation.IsFor
  cases v.audiences with
  | some audiences => exact meets_iff
  | none => exact decide_eq_true_iff

/-- An expiry that has passed is refused. -/
theorem expired_iff :
    (v.checksExpiry && c.expiry.any fun expiry => expiry < now - v.leeway) = true
      ↔ ¬(v.checksExpiry = true → ∀ expiry, c.expiry = some expiry → now ≤ expiry + v.leeway) := by
  cases v.checksExpiry <;> cases c.expiry <;> simp
  omega

/-- An issuer that is there is refused if it is none of the accepted ones. -/
theorem foreign_iff :
    (v.issuers.any fun issuers => c.issuer.any fun names => !Validation.meets issuers names) = true
      ↔ ¬∀ issuers names, v.issuers = some issuers → c.issuer = some names →
        ∃ issuer ∈ issuers, names.includes issuer = true := by
  cases v.issuers <;> cases c.issuer <;> simp [Validation.meets]

/-- An audience that is there is refused if the token is for none of the accepted ones. -/
theorem misdirected_iff :
    (v.checksAudience && c.audience.any fun names => !Validation.problem?.isMeant v names) = true
      ↔ ¬(v.checksAudience = true → ∀ names, c.audience = some names → v.IsFor names) := by
  simp only [← isMeant_iff]
  cases v.checksAudience <;> cases c.audience <;> simp

/-- **Claims pass if none is refused.** -/
theorem problem?_eq_none_iff : v.problem? c now = none ↔ v.Admits c now := by
  unfold Validation.problem?
  cases hmissing : v.required.find? fun claim => !c.has claim with
  | some claim =>
    refine iff_of_false nofun fun h => ?_
    have habsent := List.find?_some hmissing
    rw [h.complete claim (List.mem_of_find?_eq_some hmissing)] at habsent
    exact absurd habsent nofun
  | none =>
    have hcomplete : ∀ claim ∈ v.required, c.has claim = true := by simpa using hmissing
    dsimp only
    split
    · next h => exact iff_of_false nofun fun hadmits => expired_iff.mp h hadmits.current
    · next hcurrent =>
      split
      · next h => exact iff_of_false nofun fun hadmits => foreign_iff.mp h hadmits.issuer
      · next hissuer =>
        split
        · next h => exact iff_of_false nofun fun hadmits => misdirected_iff.mp h hadmits.audience
        · next haudience =>
          rw [expired_iff, Classical.not_not] at hcurrent
          rw [foreign_iff, Classical.not_not] at hissuer
          rw [misdirected_iff, Classical.not_not] at haudience
          exact iff_of_true rfl ⟨hcomplete, hcurrent, hissuer, haudience⟩

/-- If the claims would pass but for the issuer, the issuer is what is refused. -/
theorem problem?_of_foreign (others : { v with issuers := none }.Admits c now)
    (refused : ¬v.Admits c now) : v.problem? c now = some .foreignIssuer := by
  have hmissing : (v.required.find? fun claim => !c.has claim) = none := by
    simpa using others.complete
  have hcurrent := mt expired_iff.mp (Classical.not_not.mpr others.current)
  have hforeign := foreign_iff.mpr fun hissuer =>
    refused ⟨others.complete, others.current, hissuer, others.audience⟩
  rw [Validation.problem?, hmissing]
  dsimp only
  rw [if_neg hcurrent, if_pos hforeign]

/-! ### Tokens -/

namespace Library

/-- What the library finds in a token. -/
def findings : Findings where
  signed token a key := (Parts.ofText? token).any fun p =>
    (base64? p.signature).any (Signature.verify a key p.signed)
  payload? token := (Parts.ofText? token).bind fun p => base64? p.payload
  claims? := Claims.ofPayload?

variable {reads : List UInt8 → Bool} {token : String} {header : Header} {key : Key}

/-- A condition lets a check go on if it holds. -/
theorem require_eq_ok_iff {condition : Bool} {problem : Problem} {u : Unit} :
    require condition problem = .ok u ↔ condition = true := by
  cases condition <;> simp [require]

/-- A check goes on with what is there. -/
theorem found_eq_ok_iff {α : Type} {x : Option α} {problem : Problem} {a : α} :
    found x problem = .ok a ↔ x = some a := by
  cases x <;> simp [found]

/-- The header is read from the parts of a token. -/
theorem header_builtIn_iff : builtIn.header token = .ok header
    ↔ ∃ p, Parts.ofText? token = some p ∧ p.readHeader = .ok header := by
  simp only [builtIn, bind_eq_ok_iff, found_eq_ok_iff]

/-- A token that opens is cut into parts, and each of them passes its check. -/
theorem opens_iff : builtIn.Opens findings reads token header key c
    ↔ ∃ p, Parts.ofText? token = some p ∧ p.readHeader = .ok header
      ∧ key.family = header.algorithm.family
      ∧ (∃ signature, base64? p.signature = some signature
        ∧ Signature.verify header.algorithm key p.signed signature = true)
      ∧ ∃ payload, base64? p.payload = some payload ∧ reads payload = true
        ∧ Claims.ofPayload? payload = some c := by
  constructor
  · rintro ⟨hheader, hfamily, hsigned, hpayload⟩
    obtain ⟨p, hparts, hread⟩ := header_builtIn_iff.mp hheader
    simp only [findings, hparts, Option.any_some, Option.bind_some, Option.any_eq_true]
      at hsigned hpayload
    exact ⟨p, hparts, hread, hfamily, hsigned, hpayload⟩
  · rintro ⟨p, hparts, hread, hfamily, hsigned, hpayload⟩
    refine ⟨header_builtIn_iff.mpr ⟨p, hparts, hread⟩, hfamily, ?_, ?_⟩
    · simpa only [findings, hparts, Option.any_some, Option.any_eq_true] using hsigned
    · simpa only [findings, hparts, Option.bind_some] using hpayload

/-- Of a token that opens, only the algorithm and the claims are left to be refused. -/
theorem decode_of_opens (opens : builtIn.Opens findings reads token header key c)
    (accepted : v.Accepts header.algorithm) :
    builtIn.decode reads token key v now
      = (v.problem? c now).elim (.ok ()) fun problem => .error (.badClaim problem) := by
  obtain ⟨p, hparts, hread, hfamily, ⟨signature, hsignature, hverified⟩, payload, hpayload, hreads,
    hclaims⟩ := opens_iff.mp opens
  have hsame : (v.algorithms.all fun a => a.family = header.algorithm.family) = true := by
    simpa using accepted.2
  simp only [builtIn, decodeParts, found, require, ok_bind, Option.elim_some, if_true, hparts, hread,
    decide_eq_true accepted.1, decide_eq_true hfamily, hsame, hsignature, hverified, hpayload, hreads,
    hclaims]

/-- A token that is accepted opens, and nothing of it is refused. -/
theorem opens_of_decode (h : builtIn.decode reads token key v now = .ok ()) :
    ∃ header claims, builtIn.Opens findings reads token header key claims
      ∧ v.Accepts header.algorithm ∧ v.problem? claims now = none := by
  -- Every check that fails ends in an error, so that the token passed them all.
  simp only [builtIn, decodeParts, bind_eq_ok_iff, require_eq_ok_iff, found_eq_ok_iff,
    decide_eq_true_eq] at h
  obtain ⟨p, hparts, header, hread, -, haccepted, -, hfamily, -, hsame, signature, hsignature, -,
    hverified, payload, hpayload, -, hreads, claims, hclaims, hproblem⟩ := h
  have hopens : builtIn.Opens findings reads token header key claims :=
    opens_iff.mpr ⟨p, hparts, hread, hfamily, ⟨signature, hsignature, hverified⟩, payload, hpayload,
      hreads, hclaims⟩
  refine ⟨header, claims, hopens, ⟨haccepted, by simpa using hsame⟩, ?_⟩
  cases hclaim : v.problem? claims now with
  | none => rfl
  | some problem => simp [hclaim] at hproblem

/-- **The library does what is documented.** -/
theorem documented_builtIn : builtIn.Documented findings where
  decode_ok_iff reads token key v now := by
    constructor
    · intro h
      obtain ⟨header, claims, opens, accepted, hproblem⟩ := opens_of_decode h
      exact ⟨header, claims, opens, accepted, problem?_eq_none_iff.mp hproblem⟩
    · rintro ⟨header, claims, opens, accepted, hadmits⟩
      rw [decode_of_opens opens accepted, problem?_eq_none_iff.mpr hadmits, Option.elim_none]
  decode_foreign reads token key v now header claims opens accepted others refused := by
    rw [decode_of_opens opens accepted, problem?_of_foreign others refused, Option.elim_some]

end Library

end Rebac.Token
