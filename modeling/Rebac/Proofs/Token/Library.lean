import Rebac.Token.Basic

namespace Rebac.Token

/-!
# What the library is relied on for

The library that reads tokens and checks them is not part of this development. What is said of tokens
holds for every library that does what it is documented to do.

* `Findings` — what there is to be found in a token.
* `Validation.Admits` — the claims pass the checks. A claim that is missing passes, unless it is one
  that must be there.
* `Validation.Accepts` — an algorithm is accepted.
* `Library.Opens` — a token has this header and these claims, and is signed with the key.
* `Library.Documented` — **a token is accepted exactly if it opens under a key and its claims pass**;
  `Documented.decode_iff_admits` is the case of a token that opens.
-/

/-- What there is to be found in a token: whether it is signed with a key by an algorithm, its payload,
    and the claims of a payload. -/
structure Findings where
  signed : (token : String) → Algorithm → Key → Bool
  payload? : (token : String) → Option (List UInt8)
  claims? : (payload : List UInt8) → Option Claims

/-- The claims of a token. -/
def Findings.Carries (f : Findings) (token : String) (claims : Claims) : Prop :=
  ∃ payload, f.payload? token = some payload ∧ f.claims? payload = some claims

/-- A token has one list of claims at most. -/
theorem Findings.Carries.unique {f : Findings} {token : String} {claims claims' : Claims}
    (h : f.Carries token claims) (h' : f.Carries token claims') : claims = claims' := by
  obtain ⟨payload, hpayload, hclaims⟩ := h
  obtain ⟨payload', hpayload', hclaims'⟩ := h'
  cases hpayload.symm.trans hpayload'
  exact Option.some.inj (hclaims.symm.trans hclaims')

/-! ### Checks of the claims -/

/-- A token with these names for its audience is accepted: one of them is among those that are, or no
    names are accepted and there are none. -/
def Validation.IsFor (v : Validation) (names : Names) : Prop :=
  match v.audiences with
  | some audiences => ∃ audience ∈ audiences, names.includes audience = true
  | none => names = .several []

/-- The claims pass the checks at the given time. Those that must be there are, and of the others only
    the ones that are there are looked at. -/
structure Validation.Admits (v : Validation) (c : Claims) (now : Nat) : Prop where
  complete : ∀ claim ∈ v.required, c.has claim = true
  current : v.checksExpiry = true → ∀ expiry, c.expiry = some expiry → now ≤ expiry + v.leeway
  issuer : ∀ issuers names, v.issuers = some issuers → c.issuer = some names →
    ∃ issuer ∈ issuers, names.includes issuer = true
  audience : v.checksAudience = true → ∀ names, c.audience = some names → v.IsFor names

/-- The issuer is one of the checks, beside all others. -/
theorem Validation.admits_iff_others {v : Validation} {c : Claims} {now : Nat} :
    v.Admits c now
      ↔ { v with issuers := none }.Admits c now
        ∧ ∀ issuers names, v.issuers = some issuers → c.issuer = some names →
          ∃ issuer ∈ issuers, names.includes issuer = true :=
  ⟨fun h => ⟨⟨h.complete, h.current, nofun, h.audience⟩, h.issuer⟩,
    fun ⟨h, hissuer⟩ => ⟨h.complete, h.current, hissuer, h.audience⟩⟩

/-- The algorithm is one of those that are accepted, all of which are for keys of its kind. -/
def Validation.Accepts (v : Validation) (a : Algorithm) : Prop :=
  a ∈ v.algorithms ∧ ∀ other ∈ v.algorithms, other.family = a.family

/-! ### What is documented -/

namespace Library

/-- The token can be read, with this header and these claims, by the caller as well, and it is signed with
    the key, which is one for its algorithm. -/
structure Opens (L : Library) (f : Findings) (reads : List UInt8 → Bool) (token : String)
    (header : Header) (key : Key) (claims : Claims) : Prop where
  header_eq : L.header token = .ok header
  family : key.family = header.algorithm.family
  signed : f.signed token header.algorithm key = true
  payload : ∃ payload, f.payload? token = some payload ∧ reads payload = true
    ∧ f.claims? payload = some claims

/-- What a library is documented to do with a token. -/
structure Documented (L : Library) (f : Findings) : Prop where
  /-- A token is accepted exactly if it opens, its algorithm is accepted, and its claims pass the
      checks. -/
  decode_ok_iff : ∀ reads token key v now, L.decode reads token key v now = .ok () ↔
    ∃ header claims, L.Opens f reads token header key claims ∧ v.Accepts header.algorithm
      ∧ v.Admits claims now
  /-- If nothing but the issuer can be what is wrong with a token, this is what is told. -/
  decode_foreign : ∀ reads token key v now header claims, L.Opens f reads token header key claims →
    v.Accepts header.algorithm → { v with issuers := none }.Admits claims now →
    ¬ v.Admits claims now → L.decode reads token key v now = .error (.badClaim .foreignIssuer)

variable {L : Library} {f : Findings} {reads : List UInt8 → Bool} {token : String} {header : Header}
  {key : Key} {claims : Claims} {v : Validation} {now : Nat}

/-- The claims of a token that opens are the ones it carries. -/
theorem Opens.carries (h : L.Opens f reads token header key claims) : f.Carries token claims := by
  obtain ⟨payload, hpayload, -, hclaims⟩ := h.payload
  exact ⟨payload, hpayload, hclaims⟩

/-- **A token that opens is accepted exactly if its claims pass.** -/
theorem Documented.decode_iff_admits (documented : L.Documented f)
    (opens : L.Opens f reads token header key claims) (accepted : v.Accepts header.algorithm) :
    L.decode reads token key v now = .ok () ↔ v.Admits claims now := by
  rw [documented.decode_ok_iff]
  constructor
  · rintro ⟨header', claims', opens', -, hadmits⟩
    cases opens.carries.unique opens'.carries
    exact hadmits
  · exact fun hadmits => ⟨header, claims, opens, accepted, hadmits⟩

end Library

end Rebac.Token
