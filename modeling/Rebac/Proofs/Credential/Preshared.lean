import Rebac.Proofs.Json.Text
import Rebac.Proofs.Service.Pipeline

namespace Rebac.Credential

open Rebac.Service

/-!
# Which calls present a key

Keys are configured as texts and sent as a part of a header, so blanks are treated at both ends: a
header is read without the blanks around what follows the scheme, but a key is kept as it was
configured.

* `ofText?_eq_some_iff`, `ofMetadata_ok_iff` — what the credential of a call is.
* `Presents` — a call presents one of the keys; `consult_preshared` says that only this is asked.
* `text?_headerText` — a header with a key of printable characters can be sent, and is read as it was
  written.
* `preshared_keys` — **which calls pass**, and which keys can be used.
* `padded_key_refused` — a key with blanks around it is accepted as a setting, and useless.
-/

/-! ### The credential of a call -/

/-- What follows the scheme is what is left of the value without the word `Bearer` or `bearer` and a
    blank. -/
theorem afterScheme?_eq_some_iff {cs rest : List Char} :
    afterScheme? cs = some rest
      ↔ cs = "Bearer ".toList ++ rest ∨ cs = "bearer ".toList ++ rest := by
  constructor
  · intro h
    unfold afterScheme? at h
    split at h
    · cases h
      exact .inl rfl
    · cases h
      exact .inr rfl
    · cases h
  · rintro (rfl | rfl) <;> rfl

/-- The credential in a text is what follows the scheme, without the blanks around it. -/
theorem ofText?_eq_some_iff {value credential : String} :
    ofText? value = some credential
      ↔ ∃ rest, (value = "Bearer " ++ rest ∨ value = "bearer " ++ rest)
          ∧ Text.trim rest = credential ∧ credential ≠ "" := by
  -- First the characters behind the scheme, whatever the scheme is written like.
  have hread : ofText? value = some credential
      ↔ ∃ cs, afterScheme? value.toList = some cs ∧ Text.trim (String.ofList cs) = credential
          ∧ credential ≠ "" := by
    unfold ofText?
    cases hscheme : afterScheme? value.toList with
    | none => simp
    | some cs =>
      have htrim : Text.trim (String.ofList cs) = String.ofList (Text.trimChars cs) := by
        rw [Text.trim, String.toList_ofList]
      by_cases hempty : Text.trimChars cs = []
      · simp [hempty, htrim]
      · have hne : String.ofList (Text.trimChars cs) ≠ "" := by simpa using hempty
        simp only [Option.bind_eq_bind, Option.bind_some, List.isEmpty_iff, hempty, if_false,
          Option.some.injEq, exists_eq_left', htrim]
        exact ⟨fun h => ⟨h, h ▸ hne⟩, fun h => h.1⟩
  rw [hread]
  constructor
  · rintro ⟨cs, hscheme, htrim⟩
    refine ⟨String.ofList cs, ?_, htrim⟩
    rw [← String.ofList_toList (s := value)]
    rcases afterScheme?_eq_some_iff.mp hscheme with hvalue | hvalue
    · exact .inl (by rw [hvalue, String.ofList_append]; rfl)
    · exact .inr (by rw [hvalue, String.ofList_append]; rfl)
  · rintro ⟨rest, hvalue, htrim⟩
    refine ⟨rest.toList, afterScheme?_eq_some_iff.mpr ?_, by rwa [String.ofList_toList]⟩
    rcases hvalue with rfl | rfl
    · exact .inl String.toList_append
    · exact .inr String.toList_append

/-- A credential is that of the first header of its name, if this is a text with the scheme. -/
theorem ofMetadata_ok_iff {m : Metadata} {credential : String} :
    ofMetadata m = .ok credential
      ↔ ∃ h text, m.first? "authorization" = some h ∧ h.text? = some text
          ∧ ofText? text = some credential := by
  unfold ofMetadata
  cases hfirst : m.first? "authorization" with
  | none => simp
  | some h =>
    cases htext : h.text? with
    | none => simp [htext]
    | some text => cases hcredential : ofText? text <;> simp [htext, hcredential]

/-! ### Keys -/

/-- A call presents one of the keys: its first value under `authorization` can be read, and what
    follows the scheme in it is, without the blanks around it, a key. -/
def Presents (ks : List String) (m : Metadata) : Prop :=
  ∃ h text rest, m.first? "authorization" = some h ∧ h.text? = some text
    ∧ (text = "Bearer " ++ rest ∨ text = "bearer " ++ rest) ∧ Text.trim rest ∈ ks

/-- The header with which a client sends a credential can stand in a call if the credential consists of
    printable characters, and is read as it was written. -/
theorem text?_headerText {k : String} (printable : ∀ c ∈ k.toList, ' ' ≤ c ∧ c ≤ '~') :
    ∃ h, Header.ofText? "authorization" (headerText k) = some h ∧ h.text? = some (headerText k) := by
  have hall : ∀ c ∈ (headerText k).toList, 32 ≤ c.toNat ∧ c.toNat < 127 := by
    intro c hc
    rw [headerText, String.toList_append, List.mem_append] at hc
    rcases hc with hc | hc
    · have hscheme : ∀ c ∈ "Bearer ".toList, 32 ≤ c.toNat ∧ c.toNat < 127 := by simp
      exact hscheme c hc
    · exact ⟨(printable c hc).1, Nat.lt_succ_of_le (printable c hc).2⟩
  -- The text is of ASCII characters only, so that its bytes are its characters one by one.
  have hbyte : ∀ c ∈ (headerText k).toList, (Json.ascii c).toNat = c.toNat :=
    fun c hc => Json.toNat_ascii (Nat.lt_succ_of_lt (hall c hc).2)
  have hbytes : Json.bytesOfText (headerText k) = (headerText k).toList.map Json.ascii :=
    Json.bytesOfText_of_ascii fun c hc => Nat.lt_succ_of_lt (hall c hc).2
  have hvalue : (Json.bytesOfText (headerText k)).all Header.isValueByte = true := by
    rw [hbytes, List.all_map, List.all_eq_true]
    intro c hc
    have := hall c hc
    simp [Header.isValueByte, UInt8.le_iff_toNat_le, ← UInt8.toNat_inj, hbyte c hc]
    omega
  have htext : (Json.bytesOfText (headerText k)).all Header.isTextByte = true := by
    rw [hbytes, List.all_map, List.all_eq_true]
    intro c hc
    have := hall c hc
    simp [Header.isTextByte, UInt8.le_iff_toNat_le, UInt8.lt_iff_toNat_lt, hbyte c hc]
    omega
  have hname : Header.isName "authorization" = true
      ∧ (Header.foldName "authorization").endsWith "-bin" = false := by decide +kernel
  refine ⟨⟨Header.foldName "authorization", Json.bytesOfText (headerText k)⟩, ?_, ?_⟩
  · rw [Header.ofText?, hname.1, hname.2, hvalue]
    rfl
  · -- Reading the bytes back undoes the writing at each character.
    have hread : ((headerText k).toList.map Json.ascii).map (fun b => Char.ofNat b.toNat)
        = (headerText k).toList := by
      rw [List.map_map]
      refine (List.map_congr_left fun c hc => ?_).trans (List.map_id _)
      show Char.ofNat (Json.ascii c).toNat = c
      rw [hbyte c hc, Char.ofNat_toNat]
    rw [Header.text?, if_pos htext, hbytes, hread, String.ofList_toList]

section Keys

variable {ks : List String} {keys : KeyList} {g : Gate} {c : Call}

/-- The keys of a list that is accepted are the configured ones, and none is empty. -/
theorem of_ofKeys (accepted : KeyList.ofKeys ks = .ok keys) : keys.keys = ks ∧ "" ∉ ks := by
  unfold KeyList.ofKeys at accepted
  split at accepted
  · cases accepted
  · split at accepted
    · cases accepted
    · next hblank =>
      cases accepted
      refine ⟨rfl, fun hempty => hblank ?_⟩
      exact List.any_eq_true.mpr ⟨"", hempty, rfl⟩

/-- A call presents one of the keys exactly if the credential it carries is one of them. -/
theorem presents_iff (nonempty : "" ∉ ks) {m : Metadata} :
    Presents ks m ↔ ∃ credential, ofMetadata m = .ok credential ∧ credential ∈ ks := by
  constructor
  · rintro ⟨h, text, rest, hfirst, htext, hscheme, hkey⟩
    refine ⟨Text.trim rest, ofMetadata_ok_iff.mpr ⟨h, text, hfirst, htext, ?_⟩, hkey⟩
    exact ofText?_eq_some_iff.mpr ⟨rest, hscheme, rfl, fun hempty => nonempty (hempty ▸ hkey)⟩
  · rintro ⟨credential, hcredential, hkey⟩
    obtain ⟨h, text, hfirst, htext, hread⟩ := ofMetadata_ok_iff.mp hcredential
    obtain ⟨rest, hscheme, rfl, -⟩ := ofText?_eq_some_iff.mp hread
    exact ⟨h, text, rest, hfirst, htext, hscheme, hkey⟩

/-- **The authenticator of keys only asks whether a call presents one**, and stays as it is. -/
theorem consult_preshared (accepted : KeyList.ofKeys ks = .ok keys)
    (hg : g.authenticator = some (.preshared keys)) (c : Call) :
    ((g.consult c).1 = .ok () ↔ Presents ks c.metadata) ∧ (g.consult c).2 = g.authenticator := by
  obtain ⟨hkeys, hempty⟩ := of_ofKeys accepted
  rw [presents_iff hempty, Gate.consult, hg]
  dsimp only
  cases hcredential : ofMetadata c.metadata with
  | error refusal => simp
  | ok credential =>
    simp [Authenticator.validate, KeyList.validate, hkeys]

/-- A call that sends a key as a client does presents it as it is without the blanks around it. -/
theorem presents_headerText {k : String} {h : Header} {m : Metadata}
    (hfirst : m.first? "authorization" = some h) (htext : h.text? = some (headerText k)) :
    Presents ks m ↔ Text.trim k ∈ ks := by
  constructor
  · rintro ⟨h', text, rest, hfirst', htext', hscheme, hkey⟩
    obtain rfl : h = h' := Option.some.inj (hfirst.symm.trans hfirst')
    obtain rfl : headerText k = text := Option.some.inj (htext.symm.trans htext')
    rcases hscheme with hscheme | hscheme
    · obtain rfl : k = rest := by simpa [headerText] using hscheme
      exact hkey
    · have hfirst : ("Bearer " ++ k).toList = ("bearer " ++ rest).toList := congrArg _ hscheme
      simp at hfirst
  · exact fun hkey => ⟨h, headerText k, k, hfirst, htext, .inl rfl, hkey⟩

/-- **Which calls pass.** Whatever list of keys is accepted as a setting, and whatever the call:

    * a call that presents one of the keys passes the stage, and goes on as it is;
    * any other call is refused as unauthenticated, and changes nothing;
    * a key of printable characters can be sent as a client sends it; the call presents a key if the sent
      one, without the blanks around it, is a key. So a key can be used if it has no blanks around it. -/
theorem preshared_keys {σ α : Type} (accepted : KeyList.ofKeys ks = .ok keys)
    (hg : g.authenticator = some (.preshared keys)) (c : Call) (next : Step σ α) (s : σ) :
    (Presents ks c.metadata → Stage.auth.around c next (g, s) = next (g, s))
    ∧ (¬ Presents ks c.metadata → ∃ status : Status, status.code = .unauthenticated
        ∧ Stage.auth.around c next (g, s) = (.failure status, g, s))
    ∧ ∀ k ∈ ks, (∀ x ∈ k.toList, ' ' ≤ x ∧ x ≤ '~') →
        ∃ h, Header.ofText? "authorization" (headerText k) = some h
          ∧ (c.metadata.first? "authorization" = some h →
              (Presents ks c.metadata ↔ Text.trim k ∈ ks)
              ∧ (Text.trim k = k → Stage.auth.around c next (g, s) = next (g, s))) := by
  obtain ⟨hverdict, hsame⟩ := consult_preshared accepted hg c
  have hgate : ({ g with authenticator := (g.consult c).2 } : Gate) = g := by rw [hsame]
  have hpasses : Presents ks c.metadata → Stage.auth.around c next (g, s) = next (g, s) := by
    intro hpresents
    show authenticating c next (g, s) = _
    rw [authenticating_of_accepted (hverdict.mpr hpresents), hgate]
  refine ⟨hpasses, ?_, ?_⟩
  · intro hpresents
    cases hconsult : (g.consult c).1 with
    | ok => exact absurd (hverdict.mp hconsult) hpresents
    | error refusal =>
      refine ⟨refusal.status, rfl, ?_⟩
      show authenticating c next (g, s) = _
      rw [authenticating_of_refused hconsult, hgate]
  · intro k hk printable
    obtain ⟨h, hheader, htext⟩ := text?_headerText printable
    refine ⟨h, hheader, fun hfirst => ?_⟩
    have hiff : Presents ks c.metadata ↔ Text.trim k ∈ ks := presents_headerText hfirst htext
    exact ⟨hiff, fun htrim => hpasses (hiff.mpr (by rwa [htrim]))⟩

/-- Two keys, of which the second has blanks around it. -/
def twoKeys : KeyList :=
  ⟨["k1", " k "], by decide, by decide⟩

/-- A call with one header. -/
def calling (h : Header) : Call :=
  ⟨none, [h], ⟨0, .unreachable⟩⟩

/-- With both keys configured, the first can be used. -/
theorem preshared_keys_first :
    let sent : Header := ⟨"authorization", Json.bytesOfText "Bearer k1"⟩
    KeyList.ofKeys ["k1", " k "] = .ok twoKeys
    ∧ Header.ofText? "authorization" (headerText "k1") = some sent
    ∧ Stage.auth.around (calling sent) (fun p : Gate × Nat => (.answer "handled", p))
          (⟨.ofRate 1, some (.preshared twoKeys)⟩, 0)
        = (.answer "handled", ⟨.ofRate 1, some (.preshared twoKeys)⟩, 0) := by
  intro sent
  have accepted : KeyList.ofKeys ["k1", " k "] = .ok twoKeys := rfl
  have hsent : Header.ofText? "authorization" (headerText "k1") = some sent := by decide +kernel
  obtain ⟨-, -, hkeys⟩ := preshared_keys (g := ⟨.ofRate 1, some (.preshared twoKeys)⟩) accepted rfl
    (calling sent) (fun p : Gate × Nat => (.answer "handled", p)) 0
  obtain ⟨h, hheader, hpasses⟩ := hkeys "k1" (by decide) (by simp)
  obtain rfl : sent = h := Option.some.inj (hsent.symm.trans hheader)
  exact ⟨accepted, hsent, (hpasses rfl).2 (by decide)⟩

/-- A key list with a single key, which has blanks around it. -/
def paddedKeys : KeyList :=
  ⟨[" k "], by decide, by decide⟩

/-- A key with blanks around it is accepted as a setting. A call that sends it just as it was configured
    is refused. -/
theorem padded_key_refused :
    KeyList.ofKeys [" k "] = .ok paddedKeys
    ∧ (∀ x ∈ " k ".toList, ' ' ≤ x ∧ x ≤ '~')
    ∧ Header.ofText? "authorization" (headerText " k ")
        = some ⟨"authorization", Json.bytesOfText "Bearer  k "⟩
    ∧ Stage.auth.around (calling ⟨"authorization", Json.bytesOfText "Bearer  k "⟩)
          (fun p : Gate × Nat => (.answer "handled", p))
          (⟨.ofRate 1, some (.preshared paddedKeys)⟩, 0)
        = (.failure ⟨.unauthenticated, "invalid preshared key"⟩,
            ⟨.ofRate 1, some (.preshared paddedKeys)⟩, 0) :=
  ⟨rfl, by simp, by decide +kernel, rfl⟩

end Keys

end Rebac.Credential
