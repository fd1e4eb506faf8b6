import Rebac.Gateway.Answer
import Rebac.Proofs.Json.Text
import Rebac.Proofs.Steps

namespace Rebac.Gateway

open Rebac.Http Rebac.Json

/-!
# Which origins are granted

Credentials are granted with every answer, so that an answer must never be granted to an origin that is
not configured.

* `LegalValue`, `LegalName` — the texts that may be the value and the name of a header.
* `readGranted_eq_ok_iff`, `ofSettings_refused_iff` — the settings of which a policy is made, and those
  that are refused.
* `BreaksDown`, `not_breaksDown` — a star that is taken for an item of a list, or that stands for
  everything, cannot be part of a policy; it never becomes one.
* `valuesOf_answer` — of what a policy grants on every answer, nothing comes from elsewhere.
* `grants_configured_origins` — **an answer is granted to the origin of its request just if that origin
  is configured**, and to no other.
-/

/-! ### Values and names of headers -/

/-- A text that may be the value of a header: it holds no control characters but tabs. -/
def LegalValue (s : String) : Prop :=
  ∀ c ∈ s.toList, c = '\t' ∨ 0x20 ≤ c.toNat ∧ c.toNat ≠ 0x7f

/-- A text that may be the name of a header: letters, digits and signs of a token, at least one and
    not too many of them. -/
structure LegalName (s : String) : Prop where
  some : s ≠ ""
  short : s.length ≤ 65535
  token : ∀ c ∈ s.toList, c.isAlphanum = true ∨ c ∈ "!#$%&'*+-.^_`|~".toList

/-- A byte may stand in the value of a header if it is a tabulator or no control character. -/
theorem isValueByte_iff {b : UInt8} :
    Header.isValueByte b = true ↔ b.toNat = 9 ∨ 0x20 ≤ b.toNat ∧ b.toNat ≠ 0x7f := by
  simp [Header.isValueByte, UInt8.le_iff_toNat_le, ← UInt8.toNat_inj, or_comm]

/-- A character may stand in a value if all its bytes may; those beyond ASCII always may. -/
theorem forall_isValueByte_iff {c : Char} :
    (∀ b ∈ String.utf8EncodeChar c, Header.isValueByte b = true)
      ↔ c = '\t' ∨ 0x20 ≤ c.toNat ∧ c.toNat ≠ 0x7f := by
  have htab : c = '\t' ↔ c.toNat = 9 := (Char.toNat_inj (d := '\t')).symm
  simp only [isValueByte_iff, htab]
  by_cases hascii : c.toNat < 128
  · rw [utf8EncodeChar_of_ascii hascii]
    simp only [List.mem_singleton, forall_eq, toNat_ascii hascii]
  · have hbytes : ∀ b ∈ String.utf8EncodeChar c, b.toNat = 9 ∨ 0x20 ≤ b.toNat ∧ b.toNat ≠ 0x7f := by
      intro b hb
      have := le_of_mem_utf8EncodeChar hascii hb
      omega
    exact iff_of_true hbytes (by omega)

/-- A text can be sent as the value of a header exactly if it is a legal one. -/
theorem all_isValueByte_iff {s : String} :
    (bytesOfText s).all Header.isValueByte = true ↔ LegalValue s := by
  rw [← String.ofList_toList (s := s), bytesOfText_ofList, List.all_eq_true, List.forall_mem_flatMap]
  simp only [forall_isValueByte_iff, LegalValue, String.toList_ofList]

/-- A test of a range is the conjunction of its ends. -/
theorem between_iff {a b c : Char} : (a ≤ c && c ≤ b) = true ↔ a ≤ c ∧ c ≤ b := by
  rw [Bool.and_eq_true, decide_eq_true_iff, decide_eq_true_iff]

/-- The letters and digits of ASCII are three ranges. -/
theorem isAlphanum_iff {c : Char} :
    c.isAlphanum = true ↔ 'a' ≤ c ∧ c ≤ 'z' ∨ 'A' ≤ c ∧ c ≤ 'Z' ∨ '0' ≤ c ∧ c ≤ '9' := by
  have hupper : c.isUpper = true ↔ 'A' ≤ c ∧ c ≤ 'Z' := decide_eq_true_iff
  have hlower : c.isLower = true ↔ 'a' ≤ c ∧ c ≤ 'z' := between_iff
  have hdigit : c.isDigit = true ↔ '0' ≤ c ∧ c ≤ '9' := between_iff
  have hletter : c.isAlpha = true ↔ c.isUpper = true ∨ c.isLower = true := Bool.or_eq_true_iff
  have hboth : c.isAlphanum = true ↔ c.isAlpha = true ∨ c.isDigit = true := Bool.or_eq_true_iff
  rw [hboth, hletter, hupper, hlower, hdigit, or_comm (a := 'A' ≤ c ∧ _), or_assoc]

/-- The name of a header is made of letters, digits and some signs. -/
theorem isNameChar_iff {c : Char} :
    Header.isNameChar c = true ↔ c.isAlphanum = true ∨ c ∈ "!#$%&'*+-.^_`|~".toList := by
  rw [Header.isNameChar, isAlphanum_iff]
  simp only [Bool.or_eq_true, between_iff, List.contains_iff_mem, or_assoc]

/-- A text can be sent as the name of a header exactly if it is a legal one. -/
theorem isName_iff {s : String} : Header.isName s = true ↔ LegalName s := by
  simp only [Header.isName, Bool.and_eq_true, Bool.not_eq_true', String.isEmpty_eq_false_iff,
    decide_eq_true_eq, List.all_eq_true, isNameChar_iff]
  constructor
  · rintro ⟨⟨hsome, hshort⟩, htoken⟩
    exact ⟨hsome, hshort, htoken⟩
  · rintro ⟨hsome, hshort, htoken⟩
    exact ⟨⟨hsome, hshort⟩, htoken⟩

namespace Cors

/-! ### Making a policy -/

/-- An origin is read exactly if it is a legal value, and as its own bytes. -/
theorem readOrigin_eq_ok_iff (o : String) (v : List UInt8) :
    readOrigin o = .ok v ↔ LegalValue o ∧ v = bytesOfText o := by
  rw [readOrigin, ← all_isValueByte_iff]
  split
  · next h => simp [h, eq_comm]
  · next h => simp [h]

/-- A header is read exactly if it is a legal name, and in small letters. -/
theorem readHeader_eq_ok_iff (name folded : String) :
    readHeader name = .ok folded ↔ LegalName name ∧ folded = Header.foldName name := by
  rw [readHeader, ← isName_iff]
  split
  · next h => simp [h, eq_comm]
  · next h => simp [h]

section Granted

variable {α : Type} {read : String → Except CorsError α} {good : String → Prop} {value : String → α}
  {items : List String}

/-- With a star, whatever is asked for is granted; otherwise all items have to be good. -/
theorem readGranted_eq_ok_iff (h : ∀ a b, read a = .ok b ↔ good a ∧ b = value a) {g : Granted α} :
    readGranted read items = .ok g
      ↔ star ∈ items ∧ g = .asked
        ∨ star ∉ items ∧ (∀ a ∈ items, good a) ∧ g = .listed (items.map value) := by
  unfold readGranted
  by_cases hstar : star ∈ items
  · rw [if_pos (List.contains_iff_mem.mpr hstar), Except.ok.injEq]
    simp [hstar, eq_comm]
  · rw [if_neg (mt List.contains_iff_mem.mp hstar)]
    simp only [bind_eq_ok_iff, mapM_eq_ok_iff h]
    constructor
    · rintro ⟨_, ⟨hall, rfl⟩, ⟨⟩⟩
      exact .inr ⟨hstar, hall, rfl⟩
    · rintro (⟨hstar', -⟩ | ⟨-, hall, rfl⟩)
      · exact absurd hstar' hstar
      · exact ⟨_, ⟨hall, rfl⟩, rfl⟩

/-- A list is refused exactly if it has no star and an item that is not good. -/
theorem readGranted_refused_iff (h : ∀ a b, read a = .ok b ↔ good a ∧ b = value a) :
    (∃ e, readGranted read items = .error e) ↔ star ∉ items ∧ ∃ a ∈ items, ¬good a := by
  rw [exists_error_iff]
  constructor
  · intro hrefused
    have hstar : star ∉ items := fun hstar =>
      hrefused _ ((readGranted_eq_ok_iff h).mpr (.inl ⟨hstar, rfl⟩))
    have hall : ¬∀ a ∈ items, good a := fun hall =>
      hrefused _ ((readGranted_eq_ok_iff h).mpr (.inr ⟨hstar, hall, rfl⟩))
    exact ⟨hstar, by simpa using hall⟩
  · rintro ⟨hstar, a, ha, hbad⟩ g hg
    rcases (readGranted_eq_ok_iff h).mp hg with ⟨hstar', -⟩ | ⟨-, hall, -⟩
    · exact hstar hstar'
    · exact hbad (hall a ha)

end Granted

section Policy

variable {s : Config.Http} {c : Cors}

/-- A policy is that of settings exactly if both of its lists are. -/
theorem ofSettings_eq_ok_iff :
    ofSettings s = .ok c
      ↔ readGranted readOrigin s.corsAllowedOrigins = .ok c.origins
        ∧ readGranted readHeader s.corsAllowedHeaders = .ok c.headers := by
  simp only [ofSettings, bind_eq_ok_iff]
  constructor
  · rintro ⟨origins, horigins, headers, hheaders, ⟨⟩⟩
    exact ⟨horigins, hheaders⟩
  · rintro ⟨horigins, hheaders⟩
    exact ⟨_, horigins, _, hheaders, rfl⟩

/-- **The settings that are refused**: without a star, one of the origins or one of the headers is not
    legal. -/
theorem ofSettings_refused_iff :
    (∃ e, ofSettings s = .error e)
      ↔ (star ∉ s.corsAllowedOrigins ∧ ∃ o ∈ s.corsAllowedOrigins, ¬LegalValue o)
        ∨ (star ∉ s.corsAllowedHeaders ∧ ∃ h ∈ s.corsAllowedHeaders, ¬LegalName h) := by
  rw [← readGranted_refused_iff readOrigin_eq_ok_iff, ← readGranted_refused_iff readHeader_eq_ok_iff]
  unfold ofSettings
  cases readGranted readOrigin s.corsAllowedOrigins with
  | error e => simp [Bind.bind, Except.bind]
  | ok origins =>
    cases readGranted readHeader s.corsAllowedHeaders <;> simp [Bind.bind, Except.bind]

/-- The origins that the settings name, or all of them. -/
def Configured (s : Config.Http) (origin : List UInt8) : Prop :=
  star ∈ s.corsAllowedOrigins ∨ ∃ o ∈ s.corsAllowedOrigins, bytesOfText o = origin

/-- A policy grants the origins that its settings configure. -/
theorem grantsOrigin_iff (h : ofSettings s = .ok c) {origin : List UInt8} :
    c.grantsOrigin origin = true ↔ Configured s origin := by
  have horigins := (ofSettings_eq_ok_iff.mp h).1
  unfold grantsOrigin Configured
  rcases (readGranted_eq_ok_iff readOrigin_eq_ok_iff).mp horigins with
    ⟨hstar, hgranted⟩ | ⟨hstar, -, hgranted⟩
  · simp [hgranted, hstar]
  · simp [hgranted, hstar]

/-! ### Stars -/

/-- The ways in which the making of a policy breaks down: a star is put into a list, or it stands for
    all headers or for all methods, which it cannot do together with credentials. -/
inductive BreaksDown (s : Config.Http) : Prop
  | listedOrigin {items : List (List UInt8)}
      (read : readGranted readOrigin s.corsAllowedOrigins = .ok (.listed items))
      (starred : bytesOfText star ∈ items)
  | listedHeader {names : List String}
      (read : readGranted readHeader s.corsAllowedHeaders = .ok (.listed names))
      (starred : star ∈ names)
  | allHeaders {names : List String}
      (read : readGranted readHeader s.corsAllowedHeaders = .ok (.listed names))
      (starred : ",".intercalate names = star)
  | allMethods (starred : ",".intercalate methods = star)

/-- Texts with the same bytes are the same. -/
theorem eq_of_bytesOfText_eq {a b : String} (h : bytesOfText a = bytesOfText b) : a = b := by
  have hread : textOfBytes (bytesOfText a) = textOfBytes (bytesOfText b) := by rw [h]
  rw [textOfBytes_bytesOfText, textOfBytes_bytesOfText] at hread
  exact Except.ok.inj hread

/-- No other character has a star for its lower case. -/
theorem eq_star_of_toLower {c : Char} (h : c.toLower = '*') : c = '*' := by
  unfold Char.toLower at h
  split at h
  · next hupper =>
    have hval : (c.val + ('a'.val - 'A'.val)).toNat = '*'.val.toNat := by rw [← h]
    have hleast := UInt32.le_iff_toNat_le.mp hupper.1
    have hmost := UInt32.le_iff_toNat_le.mp hupper.2
    rw [UInt32.toNat_add] at hval
    simp only [Char.reduceVal, UInt32.reduceSub, UInt32.reduceToNat] at hval hleast hmost
    omega
  · exact h

/-- Only the star is folded to the star. -/
theorem eq_star_of_foldName {name : String} (h : Header.foldName name = star) : name = star := by
  have hchars : name.toList.map Char.toLower = ['*'] := by
    rw [← String.toList_map]
    exact congrArg String.toList h
  obtain ⟨c, hname, hc⟩ := List.map_eq_singleton_iff.mp hchars
  rw [eq_star_of_toLower hc] at hname
  exact String.toList_inj.mp hname

/-- Names in a row are a lone star only if there is a single one: between two there is a comma. -/
theorem mem_of_intercalate_eq_star {names : List String} (h : ",".intercalate names = star) :
    star ∈ names := by
  match names with
  | [] => exact absurd h (by decide)
  | [name] =>
    rw [String.intercalate_singleton] at h
    exact List.mem_singleton.mpr h.symm
  | first :: second :: rest =>
    rw [String.intercalate_cons_cons] at h
    have hcomma : ',' ∈ star.toList := by
      rw [← h]
      simp
    exact absurd hcomma (by decide)

/-- **Nothing breaks down**: a star among the settings is never taken for an item of a list. -/
theorem not_breaksDown (s : Config.Http) : ¬BreaksDown s := by
  have hheaders : ∀ {names : List String},
      readGranted readHeader s.corsAllowedHeaders = .ok (.listed names) → star ∉ names := by
    intro names read hstarred
    rcases (readGranted_eq_ok_iff readHeader_eq_ok_iff).mp read with ⟨-, ⟨⟩⟩ | ⟨hstar, -, ⟨⟩⟩
    obtain ⟨name, hname, hfold⟩ := List.mem_map.mp hstarred
    exact hstar (eq_star_of_foldName hfold ▸ hname)
  intro hbreaks
  cases hbreaks with
  | listedOrigin read starred =>
    rcases (readGranted_eq_ok_iff readOrigin_eq_ok_iff).mp read with ⟨-, ⟨⟩⟩ | ⟨hstar, -, ⟨⟩⟩
    obtain ⟨o, ho, hbytes⟩ := List.mem_map.mp starred
    exact hstar (eq_of_bytesOfText_eq hbytes ▸ ho)
  | listedHeader read starred => exact hheaders read starred
  | allHeaders read starred => exact hheaders read (mem_of_intercalate_eq_star starred)
  | allMethods starred => exact absurd starred (by decide)

end Policy

/-! ### Answers -/

/-- The values of the headers of that name. -/
def valuesOf (m : Metadata) (name : String) : List (List UInt8) :=
  (m.filter fun h => h.name = name).map Header.value

/-- The values of a name in two lists of headers are those of the first, then those of the second.
    -/
theorem valuesOf_append (m m' : Metadata) (name : String) :
    valuesOf (m ++ m') name = valuesOf m name ++ valuesOf m' name := by
  simp [valuesOf]

/-- A name that no header has has no values. -/
theorem valuesOf_eq_nil {m : Metadata} {name : String} (h : ∀ header ∈ m, header.name ≠ name) :
    valuesOf m name = [] := by
  have hnone : (m.filter fun header => header.name = name) = [] := by
    simpa [List.filter_eq_nil_iff] using h
  rw [valuesOf, hnone, List.map_nil]

/-- A response of which headers only tell what its body is. -/
def Bare (response : Response) : Prop :=
  ∀ header ∈ response.headers, header.name = "content-type"

section Answers

variable {σ : Type} {name : String} (c : Cors) (u : Link σ) (q : Request) (state : σ)

/-- An answer in JSON tells of its body only. -/
theorem bare_json (status : Nat) (v : Value) : Bare (jsonResponse status v) :=
  fun _ hmem => congrArg Header.name (List.mem_singleton.mp hmem)

/-- An answer in text tells of its body only. -/
theorem bare_text (status : Nat) (text : String) : Bare (textResponse status text) :=
  fun _ hmem => congrArg Header.name (List.mem_singleton.mp hmem)

/-- The answer that shows the outcome of a call tells of its body only. -/
theorem bare_outcome (r : Service.Rpc) (outcome : Service.Outcome r.Response) :
    Bare (outcomeResponse r outcome) := by
  cases outcome <;> exact bare_json _ _

/-- The answer to a request for a call tells of its body only. -/
theorem bare_answerCall (r : Service.Rpc) (tenant : Option String) :
    Bare (answerCall u state r tenant q).1 := by
  unfold answerCall
  split
  · exact bare_text _ _
  · split
    · exact bare_json _ _
    · exact bare_outcome _ _

/-- The answer to a request for the health tells of its body only. -/
theorem bare_answerHealth : Bare (forMethod q.method (answerHealth u state q)) := by
  have hhealth : Bare (answerHealth u state q) := by
    unfold answerHealth
    split
    · exact bare_text _ _
    · split
      · exact bare_json _ _
      · split
        · exact bare_json _ _
        · exact bare_json _ _
  unfold forMethod
  split
  · exact hhealth
  · exact hhealth

/-- Before the policy has its say, an answer tells of its body, or of the methods of its route. -/
theorem name_of_answerRouted :
    ∀ header ∈ (answerRouted u q state).1.headers,
      header.name = "content-type" ∨ header.name = "allow" := by
  intro header hmem
  unfold answerRouted at hmem
  split at hmem
  · cases hmem
  · exact .inr (congrArg Header.name (List.mem_singleton.mp hmem))
  · exact .inl (bare_answerHealth u q state header hmem)
  · exact .inl (bare_answerCall u q state _ _ header hmem)
  · split at hmem
    · exact .inl (bare_answerCall u q state _ _ header hmem)
    · exact .inl (bare_text _ _ header hmem)

/-- What grants headers is named for it. -/
theorem name_of_headerHeaders :
    ∀ header ∈ c.headerHeaders q, header.name = "access-control-allow-headers" := by
  intro header hmem
  unfold headerHeaders at hmem
  split at hmem
  · split at hmem
    · exact congrArg Header.name (List.mem_singleton.mp hmem)
    · cases hmem
  · cases hmem
  · exact congrArg Header.name (List.mem_singleton.mp hmem)

/-- What tells the methods of a route is named for it. -/
theorem name_of_toldMethods : ∀ header ∈ toldMethods q, header.name = "allow" := by
  intro header hmem
  unfold toldMethods at hmem
  split at hmem
  · split at hmem
    · exact congrArg Header.name (List.mem_singleton.mp hmem)
    · cases hmem
  · cases hmem

/-- **Nothing is granted from elsewhere.** But for what tells about bodies, methods and headers, the
    headers of an answer are those that the policy puts on every answer, once. -/
theorem valuesOf_answer (body : name ≠ "content-type" ∧ name ≠ "allow")
    (preflight : name ≠ "access-control-allow-methods" ∧ name ≠ "access-control-allow-headers") :
    valuesOf (answer c u q state).1.headers name = valuesOf (c.commonHeaders q) name := by
  have htold : valuesOf (toldMethods q) name = [] := by
    refine valuesOf_eq_nil fun header hmem => ?_
    rw [name_of_toldMethods q header hmem]
    exact body.2.symm
  show valuesOf ((c.around (answerRouted u) q state).1.headers ++ toldMethods q) name = _
  rw [valuesOf_append, htold, List.append_nil]
  unfold Cors.around
  split
  · -- A preflight request: the policy answers, with the methods and headers beside its own.
    have hothers : valuesOf (textHeader "access-control-allow-methods" (",".intercalate methods)
        :: c.headerHeaders q) name = [] := by
      refine valuesOf_eq_nil (List.forall_mem_cons.mpr ⟨preflight.1.symm, ?_⟩)
      intro header hmem
      rw [name_of_headerHeaders c q header hmem]
      exact preflight.2.symm
    show valuesOf (c.commonHeaders q ++ _) name = _
    rw [valuesOf_append, hothers, List.append_nil]
  · -- Any other request: the headers of the route come first, and tell about the body at most.
    have hothers : valuesOf (answerRouted u q state).1.headers name = [] := by
      refine valuesOf_eq_nil fun header hmem => ?_
      rcases name_of_answerRouted u q state header hmem with hname | hname
      · rw [hname]
        exact body.1.symm
      · rw [hname]
        exact body.2.symm
    show valuesOf ((answerRouted u q state).1.headers ++ c.commonHeaders q) name = _
    rw [valuesOf_append, hothers, List.nil_append]

/-- What grants an origin is named for it. -/
theorem name_of_originHeaders :
    ∀ header ∈ c.originHeaders q, header.name = grantedOriginName := by
  intro header hmem
  unfold originHeaders at hmem
  split at hmem
  · split at hmem
    · exact congrArg Header.name (List.mem_singleton.mp hmem)
    · cases hmem
  · cases hmem

/-- Credentials are granted on every answer. -/
theorem valuesOf_credentials :
    valuesOf (answer c u q state).1.headers "access-control-allow-credentials"
      = [bytesOfText "true"] := by
  have hnone : valuesOf (c.originHeaders q) "access-control-allow-credentials" = [] := by
    refine valuesOf_eq_nil fun header hmem => ?_
    rw [name_of_originHeaders c q header hmem]
    decide
  rw [valuesOf_answer c u q state (by decide) (by decide)]
  show bytesOfText "true" :: valuesOf (c.originHeaders q) _ = _
  rw [hnone]

/-- The origin of a request is granted if the policy says so. -/
theorem valuesOf_origin :
    valuesOf (answer c u q state).1.headers grantedOriginName
      = match q.headers.first? originName with
        | some origin => if c.grantsOrigin origin.value then [origin.value] else []
        | none => [] := by
  rw [valuesOf_answer c u q state (by decide) (by decide)]
  show valuesOf (c.originHeaders q) grantedOriginName = _
  unfold originHeaders
  cases q.headers.first? originName with
  | none => rfl
  | some origin =>
    dsimp only
    split
    · rfl
    · rfl

end Answers

section Grants

variable {s : Config.Http} {c : Cors} {σ : Type} {q : Request}

/-- The origin of a request is granted to it if it is configured. -/
theorem valuesOf_of_configured (policy : ofSettings s = .ok c) (u : Link σ) (state : σ)
    {origin : Header} (first : q.headers.first? originName = some origin)
    (configured : Configured s origin.value) :
    valuesOf (answer c u q state).1.headers grantedOriginName = [origin.value] := by
  rw [valuesOf_origin, first]
  exact if_pos ((grantsOrigin_iff policy).mpr configured)

/-- No origin is granted to a request whose own one is not configured. -/
theorem valuesOf_of_not_configured (policy : ofSettings s = .ok c) (u : Link σ) (state : σ)
    (foreign : ∀ origin, q.headers.first? originName = some origin → ¬Configured s origin.value) :
    valuesOf (answer c u q state).1.headers grantedOriginName = [] := by
  rw [valuesOf_origin]
  cases hfirst : q.headers.first? originName with
  | none => rfl
  | some origin => exact if_neg (mt (grantsOrigin_iff policy).mp (foreign origin hfirst))

end Grants

/-- **An answer is granted to configured origins only.** The making of a policy never breaks down; the
    settings are refused just if, without a star, an origin or a header is not legal. Under any policy,
    every answer to every request grants credentials, and it is granted to the origin of the request
    just if the settings name this origin, byte for byte, or a star; it is granted to nobody else. -/
theorem grants_configured_origins (s : Config.Http) :
    ¬BreaksDown s
    ∧ ((∃ e, ofSettings s = .error e)
      ↔ (star ∉ s.corsAllowedOrigins ∧ ∃ o ∈ s.corsAllowedOrigins, ¬LegalValue o)
        ∨ (star ∉ s.corsAllowedHeaders ∧ ∃ h ∈ s.corsAllowedHeaders, ¬LegalName h))
    ∧ ∀ c, ofSettings s = .ok c → ∀ {σ : Type} (u : Link σ) (q : Request) (state : σ),
        let granted := valuesOf (answer c u q state).1.headers
        (∀ v, granted "access-control-allow-origin" = [v]
          ↔ ∃ origin, q.headers.first? "origin" = some origin ∧ origin.value = v ∧ Configured s v)
        ∧ (granted "access-control-allow-origin" = []
          ↔ ∀ origin, q.headers.first? "origin" = some origin → ¬Configured s origin.value)
        ∧ granted "access-control-allow-credentials" = [bytesOfText "true"] := by
  refine ⟨not_breaksDown s, ofSettings_refused_iff, ?_⟩
  intro c policy σ u q state granted
  have hcredentials := valuesOf_credentials c u q state
  -- The answer names the origin of the request or none, as the settings name this origin or not.
  by_cases hconfigured : ∃ origin, q.headers.first? "origin" = some origin ∧ Configured s origin.value
  · obtain ⟨origin, hfirst, hconfigured⟩ := hconfigured
    have hgranted : granted "access-control-allow-origin" = [origin.value] :=
      valuesOf_of_configured policy u state hfirst hconfigured
    rw [hgranted]
    refine ⟨fun v => ?_, ?_, hcredentials⟩
    · constructor
      · rintro ⟨⟩
        exact ⟨origin, hfirst, rfl, hconfigured⟩
      · rintro ⟨other, hother, rfl, -⟩
        rw [hfirst] at hother
        cases hother
        rfl
    · exact iff_of_false (List.cons_ne_nil _ _) fun hnone => hnone origin hfirst hconfigured
  · have hforeign : ∀ origin, q.headers.first? "origin" = some origin → ¬Configured s origin.value :=
      fun origin hfirst horigin => hconfigured ⟨origin, hfirst, horigin⟩
    have hgranted : granted "access-control-allow-origin" = [] :=
      valuesOf_of_not_configured policy u state hforeign
    rw [hgranted]
    refine ⟨fun v => iff_of_false (List.cons_ne_nil _ _).symm ?_, iff_of_true rfl hforeign,
      hcredentials⟩
    rintro ⟨origin, hfirst, rfl, horigin⟩
    exact hforeign origin hfirst horigin

/-! ### Two origins and a stranger -/

/-- Two origins are configured. -/
def twoOrigins : Config.Http where
  corsAllowedOrigins := ["https://console.example.com", "https://app.example.com"]
  corsAllowedHeaders := ["Authorization"]

/-- A request of an origin. -/
def requestFrom (method origin : String) : Request :=
  ⟨method, "/healthz", "", [textHeader "origin" origin], []⟩

/-- The second origin is granted the answer to its preflight, and an origin that only begins like the
    first is granted nothing. -/
theorem grants_configured_origins_stranger :
    ∃ c, ofSettings twoOrigins = .ok c ∧
      let link : Link Unit := .gone ⟨.unavailable, "gone"⟩
      let granted := fun q => valuesOf (answer c link q ()).1.headers "access-control-allow-origin"
      granted (requestFrom "OPTIONS" "https://app.example.com") = [bytesOfText "https://app.example.com"]
        ∧ granted (requestFrom "GET" "https://console.example.com.net") = [] := by
  have hvalues : ∀ o ∈ twoOrigins.corsAllowedOrigins, LegalValue o := by
    simp [twoOrigins, LegalValue]
  have hnames : ∀ h ∈ twoOrigins.corsAllowedHeaders, LegalName h := by
    simp only [← isName_iff]
    decide
  have hpolicy : ofSettings twoOrigins
      = .ok ⟨.listed (twoOrigins.corsAllowedOrigins.map bytesOfText),
        .listed (twoOrigins.corsAllowedHeaders.map Header.foldName)⟩ :=
    ofSettings_eq_ok_iff.mpr
      ⟨(readGranted_eq_ok_iff readOrigin_eq_ok_iff).mpr (.inr ⟨by decide, hvalues, rfl⟩),
        (readGranted_eq_ok_iff readHeader_eq_ok_iff).mpr (.inr ⟨by decide, hnames, rfl⟩)⟩
  obtain ⟨-, -, hanswers⟩ := grants_configured_origins twoOrigins
  refine ⟨_, hpolicy, ?_, ?_⟩
  · have hknown : Configured twoOrigins (bytesOfText "https://app.example.com") :=
      .inr ⟨"https://app.example.com", by decide, rfl⟩
    exact ((hanswers _ hpolicy _ _ _).1 _).mpr ⟨_, rfl, rfl, hknown⟩
  · refine (hanswers _ hpolicy _ _ _).2.1.mpr ?_
    rintro _ ⟨⟩ (hstar | ⟨o, ho, hbytes⟩)
    · exact absurd hstar (by decide)
    · rw [eq_of_bytesOfText_eq hbytes] at ho
      exact absurd ho (by decide)

end Cors

end Rebac.Gateway
